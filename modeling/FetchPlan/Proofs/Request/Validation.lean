import FetchPlan.Proofs.Request.Checked
import FetchPlan.Proofs.Request.Contents

/-!
# Validation

For each reader of a parameter there is a check that goes on after a fault. Where the reader
reads one part after the other, its check has the parts side by side: all items of an
array, and all fields of an object. Each check agrees with its reader, so the first fault
that it lists is the one that the reader stops at.
-/

namespace FetchPlan

open Json (Value Members Pointer)

/-! ## Checking values -/

namespace Validate

/-- Checks items; the first of them stands at `position`. -/
def eachFrom {α : Type} (check : Pointer → Value → Checked Mismatch α) (path : Pointer)
    (position : Nat) : List Value → Checked Mismatch (List α)
  | [] => pure []
  | v :: rest =>
    List.cons <$> check (path ++ [.index position]) v <*> eachFrom check path (position + 1) rest

/-- Checks all items of an array. -/
def each {α : Type} (check : Pointer → Value → Checked Mismatch α) (path : Pointer)
    (vs : List Value) : Checked Mismatch (List α) :=
  eachFrom check path 0 vs

def string (path : Pointer) (v : Value) : Checked Mismatch String :=
  .single (Decode.string path v)

def count (path : Pointer) (v : Value) : Checked Mismatch (Option Count) :=
  .single (Decode.count path v)

/-- The items of an array, or else one fault. -/
def items (path : Pointer) (expected : Shape) (v : Value) : Checked Mismatch (List Value) :=
  .single (Decode.items path expected v)

/-- The members of an object, or else one fault. -/
def members (path : Pointer) (v : Value) : Checked Mismatch Members :=
  .single (Decode.members path v)

def requiredString (path : Pointer) (ms : Members) (key : String) :
    Checked Mismatch String :=
  .single (Decode.requiredString path ms key)

def optionalString (path : Pointer) (ms : Members) (key : String) :
    Checked Mismatch (Option String) :=
  .single (Decode.optional Decode.string path ms key)

def optionalFlag (path : Pointer) (ms : Members) (key : String) :
    Checked Mismatch (Option Bool) :=
  .single (Decode.optional Decode.flag path ms key)

def includes (path : Pointer) (v : Value) : Checked Mismatch (List String) :=
  match v with
  | .string s => pure [s]
  | .array vs => each string path vs
  | v => .single (.error (.ofValue path .strings v))

/-- Field and direction of an object. -/
def sortItem (path : Pointer) (v : Value) : Checked Mismatch Sort.Draft :=
  (members path v).andThen fun ms =>
    Sort.Draft.mk <$> requiredString path ms "field" <*> optionalString path ms "direction"

def sort (path : Pointer) (v : Value) : Checked Mismatch (List Sort.Draft) :=
  (items path .sortItems v).andThen (each sortItem path)

/-- Key, operator and negation of an object. Any value will do. -/
def filter (path : Pointer) (v : Value) : Checked Mismatch Filter.Draft :=
  (members path v).andThen fun ms =>
    (fun key operator negated => ⟨key, operator, (ms.get? "value").getD .null, negated⟩)
      <$> requiredString path ms "key" <*> requiredString path ms "operator"
      <*> optionalFlag path ms "not"

/-- The filters of a group, if it has any. -/
def groupFilters (path : Pointer) (ms : Members) :
    Checked Mismatch (Option (List Filter.Draft)) :=
  match ms.get? "filters" with
  | none => pure none
  | some v =>
    (items (path ++ [.key "filters"]) .filters v).andThen fun vs =>
      some <$> each filter (path ++ [.key "filters"]) vs

/-- The filters of an object and how they are joined. -/
def filterGroup (path : Pointer) (v : Value) : Checked Mismatch Filter.GroupDraft :=
  (members path v).andThen fun ms =>
    Filter.GroupDraft.mk <$> groupFilters path ms <*> optionalFlag path ms "or"

def filterGroups (path : Pointer) (v : Value) : Checked Mismatch (List Filter.GroupDraft) :=
  (items path .filterGroups v).andThen (each filterGroup path)

end Validate

/-- Checks a parameter. -/
def Param.validate : (p : Param) → Pointer → Value → Checked Mismatch p.Content
  | .includes => Validate.includes
  | .sort => Validate.sort
  | .limit | .page => Validate.count
  | .filterGroups => Validate.filterGroups
  | .groupBy | .selects => Validate.string

/-! ## Checks agree with readers -/

namespace Validate

/-- Items that are checked as they are read are checked as a list as they are read. -/
theorem agrees_eachFrom {α : Type} {read : Pointer → Value → Except Mismatch α}
    {check : Pointer → Value → Checked Mismatch α}
    (h : ∀ path v, Agrees (read path v) (check path v)) (path : Pointer) (vs : List Value) :
    ∀ position, Agrees (Decode.eachFrom read path position vs)
      (eachFrom check path position vs) := by
  induction vs with
  | nil =>
    intro position
    exact Agrees.pass []
  | cons v rest ih =>
    intro position
    exact (h _ v).both (ih (position + 1)) List.cons

theorem agrees_each {α : Type} {read : Pointer → Value → Except Mismatch α}
    {check : Pointer → Value → Checked Mismatch α}
    (h : ∀ path v, Agrees (read path v) (check path v)) (path : Pointer) (vs : List Value) :
    Agrees (Decode.each read path vs) (each check path vs) :=
  agrees_eachFrom h path vs 0

theorem agrees_includes (path : Pointer) (v : Value) :
    Agrees (Decode.includes path v) (includes path v) := by
  cases v with
  | string s => exact Agrees.pass [s]
  | array vs => exact agrees_each (fun _ _ => Agrees.single _) path vs
  | null | bool | number | object => exact Agrees.single (.error _)

theorem agrees_sortItem (path : Pointer) (v : Value) :
    Agrees (Decode.sortItem path v) (sortItem path v) := by
  refine (Agrees.single _).andThen fun ms => ?_
  exact (Agrees.single _).both (Agrees.single _) Sort.Draft.mk

theorem agrees_sort (path : Pointer) (v : Value) :
    Agrees (Decode.sort path v) (sort path v) :=
  (Agrees.single _).andThen fun vs => agrees_each agrees_sortItem path vs

theorem agrees_filter (path : Pointer) (v : Value) :
    Agrees (Decode.filter path v) (filter path v) := by
  have hrun : Decode.filter path v = Decode.members path v >>= fun ms =>
      (fun key operator negated =>
          Filter.Draft.mk key operator ((ms.get? "value").getD .null) negated)
        <$> Decode.requiredString path ms "key" <*> Decode.requiredString path ms "operator"
        <*> Decode.optional Decode.flag path ms "not" := by
    -- three parts in a row: `Agrees.both` takes only two
    simp only [Decode.filter, seq_eq_bind_map, map_eq_pure_bind, bind_assoc, pure_bind]
  rw [hrun]
  refine (Agrees.single _).andThen fun ms => ?_
  exact (((Agrees.single _).map _).seq (Agrees.single _)).seq (Agrees.single _)

theorem agrees_groupFilters (path : Pointer) (ms : Members) :
    Agrees (Decode.groupFilters path ms) (groupFilters path ms) := by
  unfold Decode.groupFilters groupFilters
  cases ms.get? "filters" with
  | none => exact Agrees.pass none
  | some v =>
    refine (Agrees.single _).andThen fun vs => ?_
    exact (agrees_each agrees_filter _ vs).map some

theorem agrees_filterGroup (path : Pointer) (v : Value) :
    Agrees (Decode.filterGroup path v) (filterGroup path v) := by
  refine (Agrees.single _).andThen fun ms => ?_
  exact (agrees_groupFilters path ms).both (Agrees.single _) Filter.GroupDraft.mk

theorem agrees_filterGroups (path : Pointer) (v : Value) :
    Agrees (Decode.filterGroups path v) (filterGroups path v) :=
  (Agrees.single _).andThen fun vs => agrees_each agrees_filterGroup path vs

end Validate

theorem Param.agrees (p : Param) (path : Pointer) (v : Value) :
    Agrees (p.read path v) (p.validate path v) := by
  cases p with
  | includes => exact Validate.agrees_includes path v
  | sort => exact Validate.agrees_sort path v
  | limit | page => exact Agrees.single (Decode.count path v)
  | filterGroups => exact Validate.agrees_filterGroups path v
  | groupBy | selects => exact Agrees.single (Decode.string path v)

end FetchPlan
