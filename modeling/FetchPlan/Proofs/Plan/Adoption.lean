import FetchPlan.Defaults.Document
import FetchPlan.Proofs.Plan.Resubmission

/-!
# Plans as defaults

The settings of a plan can be taken over as defaults, or the plan can be sent again as a
request. Either way the same values hold: what the plan says, with the implicit values made
explicit, and none of the old defaults. So either way the same comes of it, also for a plan
that no request could have given: its directives are taken as tokens again, and its page
may stand without a limit.
-/

namespace FetchPlan

open Include (LacksMode)

/-- A patch from a plan leaves nothing of the old defaults. -/
theorem Defaults.apply_ofPlan (b : Defaults) (o : Plan) (mode : String) :
    b.apply (.ofPlan o mode) = o.settings mode o.includes :=
  rfl

namespace Plan

theorem again_eq_error_iff {o : Plan} {mode : String} {r : Rejection} :
    o.again mode = .error r ↔
      (∃ token, o.includes.find? (LacksMode mode ·) = some token ∧
        r = .missingMode ⟨token⟩) ∨
      ((∀ token ∈ o.includes, ¬ LacksMode mode token) ∧ o.page.isSome ∧ o.limit.isNone ∧
        r = .pageWithoutLimit) := by
  unfold again
  cases hfind : o.includes.find? (LacksMode mode ·) with
  | some token =>
    have hmem := List.mem_of_find?_eq_some hfind
    have hlacks : LacksMode mode token := by simpa using List.find?_some hfind
    constructor
    · intro h
      cases h
      exact .inl ⟨token, rfl, rfl⟩
    · rintro (⟨_, heq, rfl⟩ | ⟨hnone, -⟩)
      · cases heq
        rfl
      · exact absurd hlacks (hnone token hmem)
  | none =>
    have hnone : ∀ token ∈ o.includes, ¬ LacksMode mode token := by simpa using hfind
    by_cases hpaging : o.page.isSome ∧ o.limit.isNone
    · simp only [if_pos hpaging]
      constructor
      · intro h
        cases h
        exact .inr ⟨hnone, hpaging.1, hpaging.2, rfl⟩
      · rintro (⟨_, heq, -⟩ | ⟨-, -, -, rfl⟩)
        · cases heq
        · rfl
    · simp only [if_neg hpaging]
      constructor
      · intro h
        cases h
      · rintro (⟨_, heq, -⟩ | ⟨-, hpage, hlimit, -⟩)
        · cases heq
        · exact absurd ⟨hpage, hlimit⟩ hpaging

end Plan

/-- **Adopting a plan is sending it again.** A plan whose settings are taken over as
defaults gives under an empty request what it gives when it is sent as a request itself,
whatever the old defaults are. There are only two faults that it can have: the first of its
includes that names no mode, when there is no default mode, or else a page without a limit;
without a fault its includes are selected again and all the rest stays. -/
theorem adoption_is_resubmission (o : Plan) (b : Defaults) (mode : String) :
    Plan.assemble (.ofValue (.object [])) (b.apply (.ofPlan o mode)) =
        Plan.assemble (.ofValue o.toJson) { b with mode := mode } ∧
      (∀ o₂, Plan.assemble (.ofValue o.toJson) { b with mode := mode } = .ok o₂ →
        o₂ = o.reselect mode o.includes) ∧
      ∀ r, Plan.assemble (.ofValue o.toJson) { b with mode := mode } = .error r ↔
        (∃ token, o.includes.find? (LacksMode mode ·) = some token ∧
          r = .missingMode ⟨token⟩) ∨
        ((∀ token ∈ o.includes, ¬ LacksMode mode token) ∧ o.page.isSome ∧ o.limit.isNone ∧
          r = .pageWithoutLimit) := by
  refine ⟨?_, ?_, ?_⟩
  · refine Plan.assemble_congr rfl fun p => ?_
    rw [Request.effective_of_absent rfl, Defaults.apply_ofPlan]
    exact ((Plan.holds_toJson o { b with mode := mode }).values p).symm
  · intro o₂ h
    rw [Plan.assemble_toJson, Plan.again] at h
    split at h
    · cases h
    · split at h
      · cases h
      · exact (Except.ok.inj h).symm
  · intro r
    rw [Plan.assemble_toJson]
    exact Plan.again_eq_error_iff

namespace Adoption

/-- A plan that no request gives: a directive that names a mode, another one twice, and modes
that belong to neither. -/
def odd : Plan where
  includes := ["tags,ids:name", "tags:name", "tags:name"]
  modes := .ofList [("author", "embed")]
  sort := [⟨"name", "upwards"⟩]
  limit := none
  page := none
  filterGroups := [⟨[], true⟩]
  groupBy := ""
  selects := "id"

/-- The plan that comes of it. -/
def settled : Plan :=
  { odd with
    includes := ["tags:name"]
    modes := .ofList [("tags", "embed"), ("tags,ids", "ids")] }

def paged : Defaults := { Defaults.base with limit := some 20, page := some 2 }

end Adoption

/-- Neither limit nor page of the old defaults is left. Without a default mode the first
directive that names none is refused, which is not the first one. -/
theorem adoption_is_resubmission_odd :
    Plan.assemble (.ofValue Adoption.odd.toJson) Adoption.paged = .ok Adoption.settled ∧
      Plan.assemble (.ofValue (.object []))
        (Adoption.paged.apply (.ofPlan Adoption.odd "embed")) = .ok Adoption.settled ∧
      Adoption.odd.reselect "embed" Adoption.odd.includes = Adoption.settled ∧
      Plan.assemble (.ofValue (.object []))
        (Adoption.paged.apply (.ofPlan Adoption.odd "")) =
          .error (.missingMode ⟨"tags:name"⟩) := by
  have hsent : Plan.assemble (.ofValue Adoption.odd.toJson) Adoption.paged =
      .ok Adoption.settled := by
    decide +kernel
  have hfirst : Adoption.odd.includes.find? (LacksMode "" ·) = some "tags:name" := by
    decide +kernel
  obtain ⟨hsame, hsettled, -⟩ := adoption_is_resubmission Adoption.odd Adoption.paged "embed"
  obtain ⟨hsame', -, hrejected⟩ := adoption_is_resubmission Adoption.odd Adoption.paged ""
  refine ⟨hsent, hsame.trans hsent, (hsettled _ hsent).symm, ?_⟩
  exact hsame'.trans ((hrejected _).2 (.inl ⟨_, hfirst, rfl⟩))

end FetchPlan
