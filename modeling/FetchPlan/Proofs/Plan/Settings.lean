import FetchPlan.Proofs.Plan.Settled

/-!
# Plans as settings

A plan can be asked for again by its own parts, with the implicit values made explicit.
Only the modes are not a part of a request; they come from the tokens and the default mode.
Settling such settings gives the parts back.
-/

namespace FetchPlan

/-! ## Settling what is settled -/

theorem Sort.map_settle_toDraft (terms : List Sort.Term) :
    (terms.map Sort.Term.toDraft).map Sort.Draft.settle = terms := by
  rw [List.map_map]
  exact List.map_id terms

theorem Filter.settleFrom_map_toDraft (groups : List Filter.Group) :
    ∀ position, settleFrom position (groups.map Group.toDraft) = .ok groups := by
  induction groups with
  | nil =>
    intro position
    rfl
  | cons group groups ih =>
    intro position
    rw [List.map_cons, settleFrom, settle?_toDraft]
    simp only [ih (position + 1)]
    rfl

theorem Filter.settle_map_toDraft (groups : List Filter.Group) :
    settle (groups.map Group.toDraft) = .ok groups :=
  settleFrom_map_toDraft groups 0

namespace Plan

/-- Settings that ask for `tokens` and else for what the plan says. -/
def settings (o : Plan) (mode : String) (tokens : List String) : Defaults where
  includes := tokens
  sort := o.sort.map Sort.Term.toDraft
  limit := o.limit
  page := o.page
  mode := mode
  filterGroups := o.filterGroups.map Filter.Group.toDraft
  groupBy := o.groupBy
  selects := o.selects

/-- The plan with what `tokens` select in place of its own includes. -/
def reselect (o : Plan) (mode : String) (tokens : List String) : Plan :=
  { o with
    includes := (Include.selected mode tokens).directives
    modes := (Include.selected mode tokens).modes }

variable {o : Plan} {mode : String} {tokens : List String}

/-- The settings of a plan settle into the plan, but for its includes. -/
theorem settles_settings (hpage : o.page.isSome → o.limit.isSome)
    (hlacks : ∀ t ∈ tokens, ¬ Include.LacksMode mode t) :
    Settles (o.settings mode tokens) (o.reselect mode tokens) where
  no_token_lacks_mode := hlacks
  includes := rfl
  modes := rfl
  sort := (Sort.map_settle_toDraft o.sort).symm
  limit := rfl
  page := rfl
  filterGroups := Filter.settle_map_toDraft o.filterGroups
  groupBy := rfl
  selects := rfl
  page_has_limit := hpage

end Plan

end FetchPlan
