import FetchPlan.Proofs.Json.Members
import FetchPlan.Proofs.Request.Contents
import FetchPlan.Proofs.Request.Runs
import FetchPlan.Proofs.Request.Shapes

/-!
# Rewriting requests

One request can be written in many ways: the members of its objects in another order or
with members that nobody reads, counts and flags in another of their forms, null for what
may be left out. Each rewrite is a step at one position of the document. What a reader
gives, a value or a mismatch, is the same before and after a step, whatever stands around
it.
-/

namespace FetchPlan

open Json (Value Members Pointer)

namespace Rewrite

/-! ## Steps -/

/-- What there is to know of an object: the keys that are read, those of them that may be
null instead of being left out, and the steps inside the values. -/
structure Record where
  read : List String
  nullable : List String
  inner : String → Value → Value → Prop

/-- A step in the members of an object. -/
inductive Record.Step (r : Record) : Members → Members → Prop
  | reorder {ms ms' : Members} (same : ms.Perm ms') (distinct : ms.keys.Nodup) : Step r ms ms'
  | unread (before after : Members) {key : String} (v : Value) (unread : key ∉ r.read) :
    Step r (before ++ after) (before ++ (key, v) :: after)
  | null (before after : Members) {key : String} (nullable : key ∈ r.nullable)
      (absent : key ∉ Members.keys (before ++ after)) :
    Step r (before ++ after) (before ++ (key, .null) :: after)
  | inside (before after : Members) {key : String} {v v' : Value} (step : r.inner key v v') :
    Step r (before ++ (key, v) :: after) (before ++ (key, v') :: after)

inductive Record.ObjectStep (r : Record) : Value → Value → Prop
  | object {ms ms' : Members} (step : r.Step ms ms') : ObjectStep r (.object ms) (.object ms')

/-- A step in one item of an array. -/
inductive ListStep (item : Value → Value → Prop) : Value → Value → Prop
  | item (before after : List Value) {v v' : Value} (step : item v v') :
    ListStep item (.array (before ++ v :: after)) (.array (before ++ v' :: after))

/-- Two forms of one count, or of none. -/
inductive CountStep : Value → Value → Prop
  | forms {n : Option Count} {v v' : Value} (left : Count.Form n v) (right : Count.Form n v') :
    CountStep v v'

/-- Two forms of one flag. -/
inductive FlagStep : Value → Value → Prop
  | forms {b : Bool} {v v' : Value} (left : v ∈ flagForms b) (right : v' ∈ flagForms b) :
    FlagStep v v'

def sortItem : Record where
  read := ["field", "direction"]
  nullable := ["direction"]
  inner _ _ _ := False

def filter : Record where
  read := ["key", "operator", "value", "not"]
  nullable := ["value", "not"]
  inner key v v' := key = "not" ∧ FlagStep v v'

def group : Record where
  read := ["filters", "or"]
  nullable := ["or"]
  inner key v v' :=
    key = "filters" ∧ ListStep filter.ObjectStep v v' ∨ key = "or" ∧ FlagStep v v'

/-- A step in the value of a parameter. -/
inductive ParamStep : Param → Value → Value → Prop
  | token (s : String) : ParamStep .includes (.string s) (.ofStrings [s])
  | sort {v v' : Value} (step : ListStep sortItem.ObjectStep v v') : ParamStep .sort v v'
  | limit {v v' : Value} (step : CountStep v v') : ParamStep .limit v v'
  | page {v v' : Value} (step : CountStep v v') : ParamStep .page v v'
  | groups {v v' : Value} (step : ListStep group.ObjectStep v v') :
    ParamStep .filterGroups v v'

/-- In a request nothing may be null instead of being left out. -/
def request : Record where
  read := Param.all.map Param.name
  nullable := []
  inner key v v' := ∃ p : Param, key = p.name ∧ ParamStep p v v'

/-! ## Lookups -/

/-- What is found under a key before and after a step. -/
inductive Record.Agree (r : Record) (key : String) : Option Value → Option Value → Prop
  | same (found : Option Value) : Agree r key found found
  | null (nullable : key ∈ r.nullable) : Agree r key none (some .null)
  | inside {v v' : Value} (step : r.inner key v v') : Agree r key (some v) (some v')

/-- A step changes what is found under a key that is read only in the ways of the record. -/
theorem Record.Step.agree {r : Record} {ms ms' : Members} (h : r.Step ms ms') (key : String)
    (hread : key ∈ r.read) : r.Agree key (ms.get? key) (ms'.get? key) := by
  cases h with
  | reorder hperm hdistinct =>
    rw [Members.get?_perm hperm hdistinct]
    exact .same _
  | @unread before after k v hunread =>
    have hne : key ≠ k := fun heq => hunread (heq ▸ hread)
    rw [Members.get?_append, Members.get?_append, Members.get?_cons_of_ne hne]
    exact .same _
  | @null before after k hnullable habsent =>
    by_cases hk : key = k
    · subst hk
      have hbefore : Members.get? before key = none := by
        apply Members.get?_eq_none
        intro hmem
        exact habsent (by simp [Members.keys] at hmem ⊢; exact .inl hmem)
      rw [Members.get?_eq_none habsent, Members.get?_append, hbefore,
        Members.get?_cons_self]
      exact .null hnullable
    · rw [Members.get?_append, Members.get?_append, Members.get?_cons_of_ne hk]
      exact .same _
  | @inside before after k v v' hinner =>
    rw [Members.get?_append, Members.get?_append]
    by_cases hk : key = k
    · subst hk
      rw [Members.get?_cons_self, Members.get?_cons_self]
      -- a member of the same key further in front hides the one that is rewritten
      cases Members.get? before key with
      | some w => exact .same _
      | none => exact .inside hinner
    · rw [Members.get?_cons_of_ne hk, Members.get?_cons_of_ne hk]
      exact .same _

/-- Where neither null nor a rewritten value can be found, the same is found. -/
theorem Record.Agree.eq {r : Record} {key : String} {x x' : Option Value}
    (h : r.Agree key x x') (hnullable : key ∉ r.nullable) (hinner : ∀ v v', ¬ r.inner key v v') :
    x = x' := by
  cases h with
  | same => rfl
  | null hmem => exact absurd hmem hnullable
  | inside hstep => exact absurd hstep (hinner _ _)

end Rewrite

/-! ## Reading -/

namespace Decode

open Rewrite

/-- The reader gives the same before and after each step. -/
def Respects {α : Type} (read : Pointer → Value → Except Mismatch α)
    (step : Value → Value → Prop) : Prop :=
  ∀ path v v', step v v' → read path v = read path v'

theorem respects_count : Respects count CountStep := by
  rintro path v v' ⟨hleft, hright⟩
  unfold count
  rw [countOf?_eq_some_iff.2 hleft, countOf?_eq_some_iff.2 hright]

theorem respects_flag : Respects flag FlagStep := by
  rintro path v v' ⟨hleft, hright⟩
  unfold flag
  rw [flagOf?_eq_some_iff.2 hleft, flagOf?_eq_some_iff.2 hright]

theorem eachFrom_congr {α : Type} {read : Pointer → Value → Except Mismatch α}
    {v v' : Value} (h : ∀ path, read path v = read path v') (path : Pointer)
    (before after : List Value) :
    ∀ position, eachFrom read path position (before ++ v :: after) =
      eachFrom read path position (before ++ v' :: after) := by
  induction before with
  | nil =>
    intro position
    rw [List.nil_append, List.nil_append, eachFrom, eachFrom, h]
  | cons w before ih =>
    intro position
    rw [List.cons_append, List.cons_append, eachFrom, eachFrom, ih (position + 1)]

/-- A list is read the same when its items are. -/
theorem respects_list {α : Type} {read : Pointer → Value → Except Mismatch α}
    {step : Value → Value → Prop} (h : Respects read step) (s : Shape) :
    Respects (fun path v => items path s v >>= each read path) (ListStep step) := by
  rintro path v v' ⟨before, after, hstep⟩
  exact eachFrom_congr (fun path => h path _ _ hstep) path before after 0

section Fields

variable {r : Record} {ms ms' : Members} {key : String} (path : Pointer)

theorem requiredString_congr (h : ms.get? key = ms'.get? key) :
    requiredString path ms key = requiredString path ms' key := by
  unfold requiredString
  rw [h]

/-- For an optional value null is the same as none. -/
theorem optional_congr {α : Type} {read : Pointer → Value → Except Mismatch α}
    (h : r.Agree key (ms.get? key) (ms'.get? key))
    (hread : ∀ v v', r.inner key v v' →
      v ≠ .null ∧ v' ≠ .null ∧ ∀ path, read path v = read path v') :
    optional read path ms key = optional read path ms' key := by
  unfold optional
  generalize ms.get? key = x at h
  generalize ms'.get? key = x' at h
  cases h with
  | same => rfl
  | null => rfl
  | inside hstep =>
    obtain ⟨hv, hv', heq⟩ := hread _ _ hstep
    simp only [heq]

end Fields

/-- A step in a flag, as it stands under an optional key. -/
theorem optional_flag_step {v v' : Value} (h : FlagStep v v') :
    v ≠ .null ∧ v' ≠ .null ∧ ∀ path, flag path v = flag path v' := by
  have hread := respects_flag
  cases h with
  | forms hleft hright =>
    exact ⟨flagForm_ne_null hleft, flagForm_ne_null hright,
      fun path => hread path _ _ (.forms hleft hright)⟩

theorem respects_sortItem : Respects sortItem Rewrite.sortItem.ObjectStep := by
  rintro path _ _ @⟨ms, ms', hstep⟩
  have hfield := (hstep.agree "field" (by decide)).eq (by decide) fun _ _ => id
  have hdirection : optional string path ms "direction" = optional string path ms' "direction" :=
    optional_congr path (hstep.agree "direction" (by decide)) fun _ _ => False.elim
  unfold sortItem
  simp only [members, ok_bind, requiredString_congr path hfield, hdirection]

theorem respects_filter : Respects filter Rewrite.filter.ObjectStep := by
  rintro path _ _ @⟨ms, ms', hstep⟩
  have hinner : ∀ key, key ≠ "not" → ∀ v v', ¬ Rewrite.filter.inner key v v' :=
    fun key hkey v v' h => hkey h.1
  have hkey := (hstep.agree "key" (by decide)).eq (by decide) (hinner _ (by decide))
  have hoperator := (hstep.agree "operator" (by decide)).eq (by decide) (hinner _ (by decide))
  have hvalue : ∀ {x x'}, Rewrite.filter.Agree "value" x x' →
      x.getD Value.null = x'.getD Value.null := by
    intro x x' h
    cases h with
    | same => rfl
    | null => rfl
    | inside h => exact absurd h (hinner _ (by decide) _ _)
  have hnegated : optional flag path ms "not" = optional flag path ms' "not" :=
    optional_congr path (hstep.agree "not" (by decide)) fun _ _ h => optional_flag_step h.2
  unfold filter
  simp only [members, ok_bind, requiredString_congr path hkey,
    requiredString_congr path hoperator, hvalue (hstep.agree "value" (by decide)), hnegated]

theorem groupFilters_congr (path : Pointer) {ms ms' : Members}
    (h : group.Agree "filters" (ms.get? "filters") (ms'.get? "filters")) :
    groupFilters path ms = groupFilters path ms' := by
  unfold groupFilters
  generalize ms.get? "filters" = x at h
  generalize ms'.get? "filters" = x' at h
  cases h with
  | same => rfl
  | null hnullable => exact absurd hnullable (by decide)
  | inside hstep =>
    rcases hstep with ⟨-, hstep⟩ | ⟨hkey, -⟩
    · have hlist := respects_list respects_filter .filters (path ++ [.key "filters"]) _ _ hstep
      simp only [← bind_assoc, hlist]
    · exact absurd hkey (by decide)

theorem respects_filterGroup : Respects filterGroup group.ObjectStep := by
  rintro path _ _ @⟨ms, ms', hstep⟩
  have hflag : ∀ v v', group.inner "or" v v' → FlagStep v v' := by
    rintro v v' (⟨hkey, -⟩ | ⟨-, hflag⟩)
    · exact absurd hkey (by decide)
    · exact hflag
  have hfilters := groupFilters_congr path (hstep.agree "filters" (by decide))
  have hjoining : optional flag path ms "or" = optional flag path ms' "or" :=
    optional_congr path (hstep.agree "or" (by decide))
      fun v v' h => optional_flag_step (hflag v v' h)
  unfold filterGroup
  simp only [members, ok_bind, hfilters, hjoining]

end Decode

theorem Param.respects (p : Param) : Decode.Respects p.read (Rewrite.ParamStep p) := by
  intro path v v' h
  cases h with
  | token s => rfl
  | sort hstep => exact Decode.respects_list Decode.respects_sortItem .sortItems path _ _ hstep
  | limit hstep | page hstep => exact Decode.respects_count path _ _ hstep
  | groups hstep =>
    exact Decode.respects_list Decode.respects_filterGroup .filterGroups path _ _ hstep

/-- The same values hold before and after a step in a request. -/
theorem Request.effective_step {ms ms' : Members} (h : Rewrite.request.Step ms ms')
    (d : Defaults) (p : Param) :
    effective (.ofMembers ms) d p = effective (.ofMembers ms') d p := by
  have hread : p.name ∈ Rewrite.request.read := List.mem_map_of_mem p.mem_all
  have hagree : Rewrite.request.Agree p.name (Params.ofMembers ms p.name)
      (Params.ofMembers ms' p.name) := h.agree p.name hread
  unfold effective given
  generalize Params.ofMembers ms p.name = x at hagree
  generalize Params.ofMembers ms' p.name = x' at hagree
  cases hagree with
  | same => rfl
  | null hnullable => exact absurd hnullable (by simp [Rewrite.request])
  | inside hstep =>
    obtain ⟨q, hname, hstep⟩ := hstep
    obtain rfl := Param.name_injective hname
    simp only [p.respects p.path _ _ hstep]

end FetchPlan
