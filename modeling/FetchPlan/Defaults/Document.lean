import FetchPlan.Defaults.Basic
import FetchPlan.Plan
import FetchPlan.Request.Decode
import FetchPlan.Request.Param

/-!
# Defaults documents

A patch is written as a JSON object with the parameters it sets and, under `mode`, the
default mode. The members are read in the order of the document; the first one that is
unknown or wrongly shaped is reported. The settings of a plan can be taken over as a
patch, too.
-/

namespace FetchPlan.Defaults.Patch

open Json (Value Members Pointer)

inductive Error where
  | unknownKey (key : String)
  | mismatch (mismatch : Mismatch)
deriving DecidableEq

/-- The text of a refusal. The key is shown as it is. -/
def Error.message : Error → String
  | .unknownKey key => "unknown defaults key \"" ++ key ++ "\""
  | .mismatch m => "invalid defaults: " ++ m.message

/-- The settings of a defaults document: the parameters and the mode. -/
inductive Setting where
  | param (param : Param)
  | mode
deriving DecidableEq

namespace Setting

def name : Setting → String
  | .param p => p.name
  | .mode => "mode"

def all : List Setting := Param.all.map .param ++ [.mode]

/-- The setting of a key. -/
def ofName? (key : String) : Option Setting := all.find? (·.name = key)

end Setting

/-- Reads the value of one setting into a patch. -/
def read (p : Patch) (setting : Setting) (v : Value) : Except Mismatch Patch :=
  let path : Pointer := [.key setting.name]
  match setting with
  | .param .includes => (Decode.includes path v).map fun x => { p with includes := some x }
  | .param .sort => (Decode.sort path v).map fun x => { p with sort := some x }
  | .param .limit => (Decode.count path v).map fun x => { p with limit := some x }
  | .param .page => (Decode.count path v).map fun x => { p with page := some x }
  | .param .filterGroups =>
    (Decode.filterGroups path v).map fun x => { p with filterGroups := some x }
  | .param .groupBy => (Decode.string path v).map fun x => { p with groupBy := some x }
  | .param .selects => (Decode.string path v).map fun x => { p with selects := some x }
  | .mode => (Decode.string path v).map fun x => { p with mode := some x }

def readMember (p : Patch) (member : String × Value) : Except Error Patch :=
  match Setting.ofName? member.1 with
  | none => .error (.unknownKey member.1)
  | some setting => (p.read setting member.2).mapError .mismatch

/-- Reads the members of a document, one after the other. -/
def ofMembers (members : Members) : Except Error Patch := members.foldlM readMember .empty

/-- Reads a defaults document. Of a document that is no object only the kind is told. -/
def ofValue (v : Value) : Except Error Patch :=
  match v with
  | .object members => ofMembers members
  | v => .error (.mismatch ⟨[], .object, .kind v.kind⟩)

/-- Takes over the settings of a plan, with `mode` as the default mode. -/
def ofPlan (plan : Plan) (mode : String) : Patch where
  includes := some plan.includes
  sort := some (plan.sort.map Sort.Term.toDraft)
  limit := some plan.limit
  page := some plan.page
  mode := some mode
  filterGroups := some (plan.filterGroups.map Filter.Group.toDraft)
  groupBy := some plan.groupBy
  selects := some plan.selects

end FetchPlan.Defaults.Patch
