import FetchPlan.Proofs.Request.Written

/-!
# The contents of parameters

What a parameter holds, how it is read and written and which default stands for it are
families over the seven parameters. A plan depends on its request only through the values
that hold for the parameters, each read from the request or else taken from the defaults,
and on the default mode.
-/

namespace FetchPlan

open Json (Value Members Pointer)

namespace Param

/-- What a parameter holds once it is read. -/
abbrev Content : Param → Type
  | .includes => List String
  | .sort => List Sort.Draft
  | .limit | .page => Option Count
  | .filterGroups => List Filter.GroupDraft
  | .groupBy | .selects => String

/-- Reads a parameter. -/
def read : (p : Param) → Pointer → Value → Except Mismatch p.Content
  | .includes => Decode.includes
  | .sort => Decode.sort
  | .limit | .page => Decode.count
  | .filterGroups => Decode.filterGroups
  | .groupBy | .selects => Decode.string

/-- Writes a parameter. -/
def write : (p : Param) → p.Content → Value
  | .includes => Value.ofStrings
  | .sort => fun drafts => .array (drafts.map Sort.Draft.toJson)
  | .limit | .page => Count.toJson
  | .filterGroups => fun groups => .array (groups.map Filter.GroupDraft.toJson)
  | .groupBy | .selects => Value.string

theorem restores (p : Param) : Decode.Restores p.read p.write := by
  cases p with
  | includes => exact Decode.restores_includes
  | sort => exact Decode.restores_sort
  | limit | page => exact Decode.restores_count
  | filterGroups => exact Decode.restores_filterGroups
  | groupBy | selects => exact Decode.restores_string

theorem mem_all (p : Param) : p ∈ all := by
  cases p <;> decide

theorem name_injective {p q : Param} (h : p.name = q.name) : p = q := by
  revert h
  cases p <;> cases q <;> decide

end Param

/-- The default for a parameter. -/
def Defaults.get (d : Defaults) : (p : Param) → p.Content
  | .includes => d.includes
  | .sort => d.sort
  | .limit => d.limit
  | .page => d.page
  | .filterGroups => d.filterGroups
  | .groupBy => d.groupBy
  | .selects => d.selects

/-- The default for a parameter as a request would give it. -/
def Defaults.written (d : Defaults) (p : Param) : Value := p.write (d.get p)

/-! ## The values that hold -/

namespace Request

/-- The value that holds for a parameter: what the request gives for it, else the
default. -/
def effective (params : Params) (d : Defaults) (p : Param) : Except Rejection p.Content :=
  given params p p.read (d.get p)

theorem effective_of_absent {params : Params} {p : Param} (h : params p.name = none)
    (d : Defaults) : effective params d p = .ok (d.get p) := by
  unfold effective given
  rw [h]

/-- A parameter that is given is never taken from the defaults. -/
theorem effective_of_present {params : Params} {p : Param} {v : Value}
    (h : params p.name = some v) (d : Defaults) :
    effective params d p = (p.read p.path v).mapError .mismatch := by
  unfold effective given
  rw [h]

/-- A parameter that is given as it is written. -/
theorem effective_of_written {params : Params} {p : Param} {x : p.Content}
    (h : params p.name = some (p.write x)) (d : Defaults) :
    effective params d p = .ok x := by
  rw [effective_of_present h, p.restores]
  rfl

end Request

/-! ## Plans and the values that hold -/

theorem Plan.assemble_eq (params : Params) (d : Defaults) :
    Plan.assemble params d = (do
      let tokens ← Request.effective params d .includes
      let selection ←
        (Include.Selection.ofTokens d.mode tokens).mapError Rejection.missingMode
      let sort ← Request.effective params d .sort
      let limit ← Request.effective params d .limit
      let page ← Request.effective params d .page
      let groups ← Request.effective params d .filterGroups
      let filterGroups ← (Filter.settle groups).mapError Rejection.missingFilters
      let groupBy ← Request.effective params d .groupBy
      let selects ← Request.effective params d .selects
      if page.isSome ∧ limit.isNone then throw Rejection.pageWithoutLimit
      return {
        includes := selection.directives
        modes := selection.modes
        sort := sort.map Sort.Draft.settle
        limit, page, filterGroups, groupBy, selects }) :=
  rfl

/-- Requests for which the same values hold ask for the same plan, or are rejected for the
same reason. -/
theorem Plan.assemble_congr {params params' : Params} {d d' : Defaults}
    (hmode : d.mode = d'.mode)
    (h : ∀ p, Request.effective params d p = Request.effective params' d' p) :
    Plan.assemble params d = Plan.assemble params' d' := by
  simp only [Plan.assemble_eq, h, hmode]

end FetchPlan
