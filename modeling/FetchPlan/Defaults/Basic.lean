import FetchPlan.Filter
import FetchPlan.Sort

/-!
# Defaults

Defaults hold a value for each parameter, used where a request leaves the parameter out,
and the mode of includes that name none. A patch sets some of them. It can set a limit or
a page to nothing, which is not the same as leaving it alone.
-/

namespace FetchPlan

/-- The values that a request falls back to. -/
structure Defaults where
  includes : List String
  sort : List Sort.Draft
  limit : Option Count
  page : Option Count
  mode : String
  filterGroups : List Filter.GroupDraft
  groupBy : String
  selects : String
deriving DecidableEq

/-- New values for some of the defaults. -/
structure Defaults.Patch where
  includes : Option (List String)
  sort : Option (List Sort.Draft)
  limit : Option (Option Count)
  page : Option (Option Count)
  mode : Option String
  filterGroups : Option (List Filter.GroupDraft)
  groupBy : Option String
  selects : Option String
deriving DecidableEq

namespace Defaults

def base : Defaults where
  includes := []
  sort := []
  limit := none
  page := none
  mode := "embed"
  filterGroups := []
  groupBy := ""
  selects := ""

/-- The defaults after a patch: what it sets, and the old values for the rest. -/
def apply (d : Defaults) (p : Patch) : Defaults where
  includes := p.includes.getD d.includes
  sort := p.sort.getD d.sort
  limit := p.limit.getD d.limit
  page := p.page.getD d.page
  mode := p.mode.getD d.mode
  filterGroups := p.filterGroups.getD d.filterGroups
  groupBy := p.groupBy.getD d.groupBy
  selects := p.selects.getD d.selects

def Patch.empty : Patch where
  includes := none
  sort := none
  limit := none
  page := none
  mode := none
  filterGroups := none
  groupBy := none
  selects := none

/-- A patch that sets nothing changes nothing. -/
@[simp] theorem apply_empty (d : Defaults) : d.apply .empty = d := rfl

/-! ## The JSON form of a patch -/

/-- The member for a value that may not be set. -/
def Patch.member {α : Type} (name : String) (write : α → Json.Value) (value : Option α) :
    Json.Members :=
  match value with
  | none => []
  | some x => [(name, write x)]

/-- Writes what a patch sets. A limit or page that it clears is null. -/
def Patch.toJson (p : Patch) : Json.Value :=
  .object (
    member "includes" .ofStrings p.includes ++
    member "sort" (fun sort => .array (sort.map Sort.Draft.toJson)) p.sort ++
    member "limit" Count.toJson p.limit ++
    member "page" Count.toJson p.page ++
    member "mode" .string p.mode ++
    member "filter_groups"
      (fun groups => .array (groups.map Filter.GroupDraft.toJson)) p.filterGroups ++
    member "group_by" .string p.groupBy ++
    member "selects" .string p.selects)

end Defaults

end FetchPlan
