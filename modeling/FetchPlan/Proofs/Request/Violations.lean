import FetchPlan.Proofs.Include.Selected
import FetchPlan.Proofs.Request.Validation

/-!
# All violations of a request

A validator that goes on after a fault lists all violations of a request in the order of
the parameters: wrong shapes, and in the values that could be read the tokens that lack a
mode, the groups without filters and a page without a limit. Assembly accepts a request
exactly when this list is empty, and otherwise rejects it for the first violation in it.
-/

namespace FetchPlan

open Json (Members)

/-! ## The values that hold -/

namespace Request

/-- Checks the value that holds for a parameter. The defaults have their shapes already. -/
def validated (params : Params) (d : Defaults) (p : Param) : Checked Rejection p.Content :=
  match params p.name with
  | some v => (p.validate p.path v).mapFaults .mismatch
  | none => pure (d.get p)

theorem agrees_validated (params : Params) (d : Defaults) (p : Param) :
    Agrees (effective params d p) (validated params d p) := by
  unfold validated
  cases hp : params p.name with
  | none =>
    rw [effective_of_absent hp]
    exact Agrees.pass (d.get p)
  | some v =>
    rw [effective_of_present hp]
    exact (p.agrees p.path v).mapFaults Rejection.mismatch

/-- A parameter on its own can only have a wrong shape. -/
theorem mismatch_of_mem_validated {params : Params} {d : Defaults} {p : Param}
    {r : Rejection} (h : r ∈ (validated params d p).faults) : ∃ m, r = .mismatch m := by
  unfold validated at h
  cases hp : params p.name with
  | none =>
    rw [hp] at h
    cases h
  | some v =>
    rw [hp] at h
    obtain ⟨m, -, rfl⟩ := List.mem_map.1 h
    exact ⟨m, rfl⟩

end Request

/-- All tokens that lack a mode. -/
def Include.missingModes (fallback : String) (tokens : List String) :
    List Include.MissingMode :=
  (tokens.filter (LacksMode fallback ·)).map .mk

theorem Include.head?_missingModes (fallback : String) (tokens : List String) :
    (missingModes fallback tokens).head? = stop? (Selection.ofTokens fallback tokens) := by
  rw [missingModes, List.head?_map, List.head?_filter, ofTokens_eq]
  cases tokens.find? (LacksMode fallback ·) <;> rfl

/-- The positions of all groups without filters, when `position` others stand before. -/
def Filter.missingFilters (position : Nat) (groups : List Filter.GroupDraft) :
    List Filter.MissingFilters :=
  ((groups.zipIdx position).filter (·.1.filters.isNone)).map fun g => ⟨g.2⟩

theorem Filter.head?_missingFilters (groups : List Filter.GroupDraft) :
    ∀ position, (missingFilters position groups).head? = stop? (settleFrom position groups) := by
  induction groups with
  | nil =>
    intro position
    rfl
  | cons group groups ih =>
    intro position
    -- a group without filters stops the run at once, any other one is passed
    rcases group with ⟨_ | filters, disjunctive⟩
    · rfl
    · have hrest : missingFilters position (⟨some filters, disjunctive⟩ :: groups) =
          missingFilters (position + 1) groups := rfl
      have hrun : settleFrom position (⟨some filters, disjunctive⟩ :: groups) =
          (settleFrom (position + 1) groups).map (_ :: ·) := rfl
      rw [hrest, hrun, ih (position + 1)]
      cases settleFrom (position + 1) groups <;> rfl

/-! ## All violations -/

namespace Plan

/-- All violations of a request, parameter by parameter. -/
def violations (params : Params) (d : Defaults) : List Rejection :=
  let tokens := Request.validated params d .includes
  let sort := Request.validated params d .sort
  let limit := Request.validated params d .limit
  let page := Request.validated params d .page
  let groups := Request.validated params d .filterGroups
  let groupBy := Request.validated params d .groupBy
  let selects := Request.validated params d .selects
  tokens.faults ++
    tokens.need (fun tokens => (Include.missingModes d.mode tokens).map .missingMode) ++
    sort.faults ++ limit.faults ++ page.faults ++ groups.faults ++
    groups.need (fun groups => (Filter.missingFilters 0 groups).map .missingFilters) ++
    groupBy.faults ++ selects.faults ++
    limit.need fun limit => page.need fun page =>
      if page.isSome ∧ limit.isNone then [.pageWithoutLimit] else []

theorem head?_violations (params : Params) (d : Defaults) :
    (violations params d).head? = stop? (assemble params d) := by
  have h := Request.agrees_validated params d
  rw [assemble_eq]
  unfold violations
  simp only [List.append_assoc]
  -- the run and the list go through the same parts; each part that is passed lends its
  -- value to the parts that need it
  refine head?_append_eq_stop? (h .includes).first fun tokens htokens => ?_
  rw [(h .includes).need_eq htokens]
  refine head?_append_eq_stop? ?_ fun selection _ => ?_
  · rw [List.head?_map, Include.head?_missingModes, stop?_mapError]
  refine head?_append_eq_stop? (h .sort).first fun sort _ => ?_
  refine head?_append_eq_stop? (h .limit).first fun limit hlimit => ?_
  refine head?_append_eq_stop? (h .page).first fun page hpage => ?_
  refine head?_append_eq_stop? (h .filterGroups).first fun groups hgroups => ?_
  rw [(h .filterGroups).need_eq hgroups]
  refine head?_append_eq_stop? ?_ fun filterGroups _ => ?_
  · rw [List.head?_map, Filter.head?_missingFilters, stop?_mapError]
    rfl
  refine head?_append_eq_stop? (h .groupBy).first fun groupBy _ => ?_
  refine head?_append_eq_stop? (h .selects).first fun selects _ => ?_
  rw [(h .limit).need_eq hlimit, (h .page).need_eq hpage]
  by_cases hpaging : page.isSome ∧ limit.isNone
  · rw [if_pos hpaging, if_pos hpaging]
    rfl
  · rw [if_neg hpaging, if_neg hpaging]
    rfl

/-- Groups without filters are only looked for when all groups have their shapes. -/
theorem faults_eq_nil_of_missingFilters {params : Params} {d : Defaults}
    {missing : Filter.MissingFilters}
    (h : .missingFilters missing ∈ violations params d) :
    (Request.validated params d .filterGroups).faults = [] := by
  have hshape : ∀ p, .missingFilters missing ∉ (Request.validated params d p).faults := by
    intro p hmem
    obtain ⟨m, hm⟩ := Request.mismatch_of_mem_validated hmem
    cases hm
  simp only [violations, List.mem_append, hshape, false_or, or_false, Checked.mem_need,
    List.mem_map] at h
  rcases h with (⟨_, -, _, -, hmode⟩ | ⟨groups, hgroups, -⟩) | ⟨limit, -, page, -, hpaging⟩
  · cases hmode
  · exact (Request.agrees_validated params d .filterGroups).faults_eq_nil hgroups
  · split at hpaging
    · simp at hpaging
    · cases hpaging

end Plan

/-- **First violation.** A request has a plan exactly when it has no violations; any other
request is rejected for the first of them. As long as some filter group has a wrong shape,
it is never rejected for a group without filters, and that is not even a violation. -/
theorem assemble_first_violation (params : Params) (d : Defaults) :
    ((∃ o, Plan.assemble params d = .ok o) ↔ Plan.violations params d = []) ∧
      (∀ r, Plan.assemble params d = .error r ↔
        (Plan.violations params d).head? = some r) ∧
      ((Request.validated params d .filterGroups).faults ≠ [] → ∀ missing,
        .missingFilters missing ∉ Plan.violations params d ∧
          Plan.assemble params d ≠ .error (.missingFilters missing)) := by
  have hhead := Plan.head?_violations params d
  refine ⟨?_, ?_, ?_⟩
  · rw [← stop?_eq_none_iff, ← hhead, List.head?_eq_none_iff]
  · intro r
    rw [← stop?_eq_some_iff, ← hhead]
  · intro hfaults missing
    have hnot : .missingFilters missing ∉ Plan.violations params d :=
      fun hmem => hfaults (Plan.faults_eq_nil_of_missingFilters hmem)
    refine ⟨hnot, ?_⟩
    intro herror
    rw [← stop?_eq_some_iff, ← hhead] at herror
    exact hnot (List.mem_of_head? herror)

namespace Violations

/-- A request with faults in most of its parameters. -/
def faulty : Members := [
  ("selects", .null),
  ("page", .ofNat 1),
  ("limit", .null),
  ("sort", .array [.object [("direction", .ofNat 1)]]),
  ("filter_groups", .array [.object [("or", .string "maybe")], .null])]

/-- Defaults without a mode, and includes that need one. -/
def unconfigured : Defaults :=
  { Defaults.base with mode := "", includes := ["tags,ids", "author", "editor"] }

/-- The faults of the request, in order. -/
def listed : List Rejection := [
  .missingMode ⟨"author"⟩,
  .missingMode ⟨"editor"⟩,
  .mismatch ⟨[.key "sort", .index 0, .key "field"], .string, .nothing⟩,
  .mismatch ⟨[.key "sort", .index 0, .key "direction"], .string, .number (.integer 1)⟩,
  .mismatch ⟨[.key "filter_groups", .index 0, .key "or"], .flag, .string "maybe"⟩,
  .mismatch ⟨[.key "filter_groups", .index 1], .object, .kind .null⟩,
  .mismatch ⟨[.key "selects"], .string, .kind .null⟩,
  .pageWithoutLimit]

end Violations

/-- The first group has no filters either, but there is no telling before both groups are
objects. -/
theorem assemble_first_violation_faulty :
    Plan.violations (.ofValue (.object Violations.faulty)) Violations.unconfigured =
        Violations.listed ∧
      Plan.assemble (.ofValue (.object Violations.faulty)) Violations.unconfigured =
        .error (.missingMode ⟨"author"⟩) := by
  have h := assemble_first_violation (.ofValue (.object Violations.faulty))
    Violations.unconfigured
  have hlisted : Plan.violations (.ofValue (.object Violations.faulty))
      Violations.unconfigured = Violations.listed := by
    decide +kernel
  refine ⟨hlisted, (h.2.1 _).2 ?_⟩
  rw [hlisted]
  rfl

end FetchPlan
