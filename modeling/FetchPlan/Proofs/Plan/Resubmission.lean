import FetchPlan.Proofs.Plan.Attainable

/-!
# Plans as requests

The JSON form of a plan is again a request. It gives every parameter, so nothing is taken
from the defaults but the mode; the modes of the plan are not read, so what a token named
before is lost, and each directive gets the default mode. After this one step nothing
changes any more.
-/

namespace FetchPlan

open Json (Members)
open Include (headOf modeOf)

/-! ## Writing what is settled -/

theorem Sort.map_toJson_toDraft (terms : List Sort.Term) :
    (terms.map Sort.Term.toDraft).map Sort.Draft.toJson = terms.map Sort.Term.toJson := by
  rw [List.map_map]
  rfl

theorem Filter.Group.toJson_toDraft (group : Filter.Group) :
    group.toDraft.toJson = group.toJson := by
  have hfilters : (group.filters.map Test.toDraft).map Draft.toJson =
      group.filters.map Test.toJson := by
    rw [List.map_map]
    rfl
  show Json.Value.object [("filters", .array ((group.filters.map _).map _)), _] = _
  rw [hfilters]
  rfl

theorem Filter.map_toJson_toDraft (groups : List Filter.Group) :
    (groups.map Group.toDraft).map GroupDraft.toJson = groups.map Group.toJson := by
  rw [List.map_map]
  exact List.map_congr_left fun group _ => group.toJson_toDraft

namespace Plan

/-- A plan is written with the values of its settings. -/
theorem ofValue_toJson (o : Plan) (mode : String) (p : Param) :
    Params.ofValue o.toJson p.name = some ((o.settings mode o.includes).written p) := by
  cases p with
  | includes | limit | page | groupBy | selects => rfl
  | sort =>
    show some (Json.Value.array _) = some (Json.Value.array _)
    rw [← Sort.map_toJson_toDraft]
    rfl
  | filterGroups =>
    show some (Json.Value.array _) = some (Json.Value.array _)
    rw [← Filter.map_toJson_toDraft]
    rfl

theorem holds_toJson (o : Plan) (d : Defaults) :
    Request.Holds (.ofValue o.toJson) d (o.settings d.mode o.includes) where
  mode := rfl
  values p := Request.effective_of_written (ofValue_toJson o d.mode p) d

/-- What comes of a plan whose parts are asked for again. The includes are settled before
the paging is looked at; all else is settled already. -/
def again (o : Plan) (mode : String) : Except Rejection Plan :=
  match o.includes.find? (Include.LacksMode mode ·) with
  | some token => .error (.missingMode ⟨token⟩)
  | none =>
    if o.page.isSome ∧ o.limit.isNone then .error .pageWithoutLimit
    else .ok (o.reselect mode o.includes)

theorem assemble_toJson (o : Plan) (d : Defaults) :
    assemble (.ofValue o.toJson) d = o.again d.mode := by
  have hvalues := (holds_toJson o d).values
  rw [assemble_eq, hvalues .includes, ok_bind]
  simp only [Defaults.get, settings, Include.ofTokens_eq, again]
  cases o.includes.find? (Include.LacksMode d.mode ·) with
  | some token => rfl
  | none =>
    -- the sort, the counts, the filters and the texts are read and settled without fault
    simp only [mapError_ok, ok_bind, hvalues, Defaults.get, settings,
      Filter.settle_map_toDraft, Sort.map_settle_toDraft]
    split <;> rfl

/-! ## Plans that are read back -/

/-- A plan whose includes are directives, each once. -/
structure Canonical (o : Plan) : Prop where
  distinct : o.includes.Nodup
  names_no_mode : ∀ text ∈ o.includes, modeOf (headOf text) = none
  page_has_limit : o.page.isSome → o.limit.isSome

/-- The modes of the plan are given for the heads of its directives and no other keys, and
all are `mode`. -/
def Uniform (mode : String) (o : Plan) : Prop :=
  ∀ key, o.modes.get? key = if key ∈ o.includes.map headOf then some mode else none

/-- The plan with one mode for all its directives. -/
def remode (mode : String) (o : Plan) : Plan :=
  { o with modes := .ofKeys (fun _ => mode) (o.includes.map headOf) }

theorem uniform_remode (mode : String) (o : Plan) : (o.remode mode).Uniform mode :=
  fun key => Include.Modes.get?_ofKeys _ _ key

theorem remode_eq_self_iff {mode : String} {o : Plan} :
    o.remode mode = o ↔ o.Uniform mode := by
  constructor
  · intro h
    rw [← h]
    exact uniform_remode mode o
  · intro h
    have hmodes : Include.Modes.ofKeys (fun _ => mode) (o.includes.map headOf) = o.modes := by
      apply Include.Modes.ext_get?
      intro key
      rw [h key]
      exact uniform_remode mode o key
    unfold remode
    rw [hmodes]

theorem Attainable.canonical {d : Defaults} {o : Plan} (h : o.Attainable d) :
    o.Canonical where
  distinct := h.selection.distinct
  names_no_mode := fun text htext =>
    Include.modeOf_eq_none_iff.2 (h.selection.directive_names_no_mode text htext)
  page_has_limit := h.page_has_limit

namespace Canonical

variable {o : Plan} {d : Defaults}

theorem remode (h : o.Canonical) (mode : String) : (o.remode mode).Canonical :=
  ⟨h.distinct, h.names_no_mode, h.page_has_limit⟩

/-- Directives select themselves, all with the default mode. -/
theorem reselect_includes (h : o.Canonical) (mode : String) :
    o.reselect mode o.includes = o.remode mode := by
  have hdirectives : o.includes.map Include.directiveOf = o.includes := by
    rw [List.map_congr_left fun text htext =>
      Include.directiveOf_eq_self (h.names_no_mode text htext), List.map_id']
  have hmodes : Include.Modes.ofKeys (Include.modeWith mode) (o.includes.map headOf) =
      .ofKeys (fun _ => mode) (o.includes.map headOf) := by
    unfold Include.Modes.ofKeys
    congr 1
    simp only [List.map_map]
    apply List.map_congr_left
    intro text htext
    simp [Include.modeWith, h.names_no_mode text htext]
  unfold reselect Plan.remode Include.selected
  rw [hdirectives, hmodes, Include.eraseDups_eq_self h.distinct]

theorem assemble_toJson (h : o.Canonical) (hmode : d.mode ≠ "" ∨ o.includes = []) :
    assemble (.ofValue o.toJson) d = .ok (o.remode d.mode) := by
  -- no directive has a mode of its own, so all of them need the default mode
  have hlacks : ∀ t ∈ o.includes, ¬ Include.LacksMode d.mode t := by
    rintro t ht ⟨hempty, -⟩
    rcases hmode with hmode | hnil
    · exact hmode hempty
    · rw [hnil] at ht
      cases ht
  have hsettles := settles_settings h.page_has_limit hlacks
  rw [h.reselect_includes] at hsettles
  exact assemble_eq_ok_iff.2 ⟨_, holds_toJson o d, hsettles⟩

theorem assemble_toJson_of_no_mode (h : o.Canonical) (hmode : d.mode = "") {first : String}
    {rest : List String} (hincludes : o.includes = first :: rest) :
    assemble (.ofValue o.toJson) d = .error (.missingMode ⟨first⟩) := by
  have hlacks : Include.LacksMode d.mode first := by
    refine ⟨hmode, h.names_no_mode first ?_⟩
    rw [hincludes]
    exact List.mem_cons_self
  rw [Plan.assemble_toJson, again, hincludes, List.find?_cons_of_pos (by simpa using hlacks)]

end Canonical

end Plan

/-- **One step suffices.** A plan that is given again as a request keeps all its parts but
the modes, whatever the other defaults are: each directive now has the default mode, also
one that had a mode of its own. The new plan is given back as it is. So a plan is given
back at once exactly when all its directives have the default mode already. Without a
default mode the first directive is refused. -/
theorem resubmission_stabilises (params : Params) (d d₂ : Defaults) (o : Plan)
    (h : Plan.assemble params d = .ok o) :
    (d₂.mode ≠ "" ∨ o.includes = [] →
      ∃ o₂, Plan.assemble (.ofValue o.toJson) d₂ = .ok o₂ ∧
        o₂ = { o with modes := o₂.modes } ∧ o₂.Uniform d₂.mode ∧
        Plan.assemble (.ofValue o₂.toJson) d₂ = .ok o₂ ∧
        (o₂ = o ↔ o.Uniform d₂.mode)) ∧
      (d₂.mode = "" → ∀ first rest, o.includes = first :: rest →
        Plan.assemble (.ofValue o.toJson) d₂ = .error (.missingMode ⟨first⟩)) := by
  obtain ⟨e, hholds, hsettles⟩ := Plan.assemble_eq_ok_iff.1 h
  have hcanonical : o.Canonical := (hsettles.attainable hholds.mode).canonical
  constructor
  · intro hmode
    refine ⟨o.remode d₂.mode, hcanonical.assemble_toJson hmode, rfl, ?_, ?_, ?_⟩
    · exact Plan.uniform_remode d₂.mode o
    · -- the includes stay, so the new plan is canonical too and is remoded once more
      exact (hcanonical.remode d₂.mode).assemble_toJson hmode
    · exact Plan.remode_eq_self_iff
  · intro hmode first rest hincludes
    exact hcanonical.assemble_toJson_of_no_mode hmode hincludes

namespace Resubmission

/-- A request with a mode of its own, fields and no limit. -/
def asked : Members := [
  ("includes", .ofStrings ["author,ids:name", "tags", "author:name"]),
  ("limit", .null)]

/-- Defaults with another mode and a page that the plan does not have. -/
def others : Defaults :=
  { Defaults.base with mode := "sideload", limit := some 5, page := some 2, selects := "id" }

/-- The plan of the request. -/
def plan : Plan where
  includes := ["author:name", "tags"]
  modes := .ofList [("author", "embed"), ("author,ids", "ids"), ("tags", "embed")]
  sort := []
  limit := none
  page := none
  filterGroups := []
  groupBy := ""
  selects := ""

end Resubmission

/-- The mode `ids` is lost, and the limit is not taken from the defaults. -/
theorem resubmission_stabilises_others :
    Plan.assemble (.ofValue (.object Resubmission.asked)) .base = .ok Resubmission.plan ∧
      Resubmission.others.mode ≠ "" ∧
      ∃ o₂, Plan.assemble (.ofValue Resubmission.plan.toJson) Resubmission.others = .ok o₂ ∧
        Plan.assemble (.ofValue o₂.toJson) Resubmission.others = .ok o₂ ∧
        o₂.limit = none ∧ o₂ ≠ Resubmission.plan := by
  have hplan : Plan.assemble (.ofValue (.object Resubmission.asked)) .base =
      .ok Resubmission.plan := by
    decide +kernel
  have hmode : Resubmission.others.mode ≠ "" := by decide
  have h := resubmission_stabilises _ _ Resubmission.others _ hplan
  obtain ⟨o₂, hassemble, hparts, -, hagain, hsame⟩ := h.1 (.inl hmode)
  refine ⟨hplan, hmode, o₂, hassemble, hagain, ?_, ?_⟩
  · rw [hparts]
    rfl
  · intro heq
    exact absurd (hsame.1 heq "author,ids") (by decide +kernel)

end FetchPlan
