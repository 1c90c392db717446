import FetchPlan.Proofs.Include.Selected
import FetchPlan.Proofs.Request.Contents
import FetchPlan.Proofs.Request.Runs

/-!
# Settings and the plans they settle into

Assembling a plan has two parts. First the values that hold for the parameters are found;
together with the default mode they are again a set of defaults, the settings of the
request. Then the settings are settled, which may still fail. `assemble_eq_ok_iff` says
so in full: there is a plan exactly when there are settings and they settle into it.
-/

namespace FetchPlan

/-- `e` are the settings that hold for a request with the defaults `d`. -/
structure Request.Holds (params : Params) (d e : Defaults) : Prop where
  mode : e.mode = d.mode
  values : ∀ p, effective params d p = .ok (e.get p)

/-- The plan `o` is what the settings `e` settle into. -/
structure Plan.Settles (e : Defaults) (o : Plan) : Prop where
  no_token_lacks_mode : ∀ token ∈ e.includes, ¬ Include.LacksMode e.mode token
  includes : o.includes = (Include.selected e.mode e.includes).directives
  modes : o.modes = (Include.selected e.mode e.includes).modes
  sort : o.sort = e.sort.map Sort.Draft.settle
  limit : o.limit = e.limit
  page : o.page = e.page
  filterGroups : Filter.settle e.filterGroups = .ok o.filterGroups
  groupBy : o.groupBy = e.groupBy
  selects : o.selects = e.selects
  page_has_limit : o.page.isSome → o.limit.isSome

namespace Plan

/-- **Assembly in two parts.** A request has a plan exactly when all its parameters can be
read and the settings that then hold settle into this plan. -/
theorem assemble_eq_ok_iff {params : Params} {d : Defaults} {o : Plan} :
    assemble params d = .ok o ↔ ∃ e, Request.Holds params d e ∧ Settles e o := by
  rw [assemble_eq]
  simp only [bind_eq_ok_iff, mapError_eq_ok_iff, Include.ofTokens_eq_ok_iff, check_eq_ok_iff]
  constructor
  · rintro ⟨tokens, htokens, -, ⟨hlacks, rfl⟩, sort, hsort, limit, hlimit, page, hpage,
      groups, hgroups, filterGroups, hsettle, groupBy, hgroupBy, selects, hselects,
      hchecked, rfl⟩
    refine ⟨⟨tokens, sort, limit, page, d.mode, groups, groupBy, selects⟩, ⟨rfl, ?_⟩, ?_⟩
    · intro p
      cases p <;> assumption
    · -- all parts are the settled ones by construction; the page is what was checked last
      refine ⟨hlacks, rfl, rfl, rfl, rfl, rfl, hsettle, rfl, rfl, ?_⟩
      intro hsome
      cases limit with
      | none => exact absurd ⟨hsome, rfl⟩ hchecked
      | some limit => rfl
  · rintro ⟨e, ⟨hmode, hvalues⟩, hs⟩
    refine ⟨e.includes, hvalues .includes, _, ⟨hmode ▸ hs.no_token_lacks_mode, rfl⟩,
      e.sort, hvalues .sort, e.limit, hvalues .limit, e.page, hvalues .page,
      e.filterGroups, hvalues .filterGroups, o.filterGroups, hs.filterGroups,
      e.groupBy, hvalues .groupBy, e.selects, hvalues .selects, ?_, ?_⟩
    · rintro ⟨hpage, hlimit⟩
      have hsome := hs.page_has_limit (hs.page ▸ hpage)
      rw [hs.limit, Option.isNone_iff_eq_none.1 hlimit] at hsome
      cases hsome
    · rw [← hmode, ← hs.includes, ← hs.modes, ← hs.sort, ← hs.limit, ← hs.page, ← hs.groupBy,
        ← hs.selects]

end Plan

end FetchPlan
