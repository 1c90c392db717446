import FetchPlan.Defaults.Document
import FetchPlan.Proofs.Json.ReadValues
import FetchPlan.Proofs.Plan.Settled
import FetchPlan.Proofs.Request.Places

/-!
# Filter values

The value that a filter tests with is not looked at. It is handed on from the request or
from the defaults document to the plan, where it stands as deep as it did there; so what a
text can say is what a plan can hold.
-/

namespace FetchPlan

open Json (Value Members Pointer)

/-! ## Where values stand -/

namespace Json.Value.Readable

variable {limit level : Nat}

theorem null : (Value.null).Readable limit level := ⟨.null, .null level⟩

theorem item {vs : List Value} (h : (Value.array vs).Readable limit level) {v : Value}
    (hv : v ∈ vs) : v.Readable limit (level + 1) := by
  obtain ⟨hwell, hfits⟩ := h
  cases hwell with
  | array hwell =>
    cases hfits with
    | array _ hfits => exact ⟨hwell v hv, hfits v hv⟩

theorem member {ms : Members} (h : (Value.object ms).Readable limit level) {m : String × Value}
    (hm : m ∈ ms) : m.2.Readable limit (level + 1) := by
  obtain ⟨hwell, hfits⟩ := h
  cases hwell with
  | object _ hwell =>
    cases hfits with
    | object _ hfits => exact ⟨hwell m hm, hfits m hm⟩

theorem get? {ms : Members} (h : (Value.object ms).Readable limit level) {name : String}
    {v : Value} (hv : ms.get? name = some v) : v.Readable limit (level + 1) :=
  h.member (Members.mem_of_get?_eq_some hv)

end Json.Value.Readable

/-! ## What filters test with -/

variable (P : Value → Prop)

/-- The filters of the group test with values that satisfy `P`. -/
def Filter.GroupDraft.TestsWith (g : GroupDraft) : Prop :=
  ∀ filters, g.filters = some filters → ∀ f ∈ filters, P f.value

/-- All filters of the defaults test with values that satisfy `P`. -/
def Defaults.TestsWith (d : Defaults) : Prop := ∀ g ∈ d.filterGroups, g.TestsWith P

/-- All filters that the patch sets test with values that satisfy `P`. -/
def Defaults.Patch.TestsWith (p : Patch) : Prop :=
  ∀ groups, p.filterGroups = some groups → ∀ g ∈ groups, g.TestsWith P

/-- All filters of the plan test with values that satisfy `P`. -/
def Plan.TestsWith (o : Plan) : Prop := ∀ g ∈ o.filterGroups, ∀ t ∈ g.filters, P t.value

variable {P} {limit : Nat}

theorem Filter.testsWith_settleFrom {groups : List GroupDraft} {settled : List Group}
    (hgroups : ∀ g ∈ groups, g.TestsWith P) :
    ∀ {position}, settleFrom position groups = .ok settled →
      ∀ g ∈ settled, ∀ t ∈ g.filters, P t.value := by
  induction groups generalizing settled with
  | nil =>
    intro position h
    cases h
    exact fun _ hg => by cases hg
  | cons group rest ih =>
    intro position h
    obtain ⟨hgroup, hrest⟩ := List.forall_mem_cons.1 hgroups
    rw [settleFrom] at h
    cases hsettle : group.settle? with
    | none =>
      rw [hsettle] at h
      cases h
    | some first =>
      rw [hsettle] at h
      obtain ⟨others, hothers, rfl⟩ := map_eq_ok_iff.1 h
      obtain ⟨filters, hfilters, rfl⟩ := Option.map_eq_some_iff.1 hsettle
      refine List.forall_mem_cons.2 ⟨?_, ih hrest hothers⟩
      intro t ht
      obtain ⟨f, hf, rfl⟩ := List.mem_map.1 ht
      exact hgroup filters hfilters f hf

/-! ## Readers -/

namespace Decode

/-- What is read from a value that stands at `level` satisfies `Q`. -/
def Keeps {α : Type} (limit level : Nat) (read : Pointer → Value → Except Mismatch α)
    (Q : α → Prop) : Prop :=
  ∀ path v x, v.Readable limit level → read path v = .ok x → Q x

theorem exists_of_mem_eachFrom {α : Type} {read : Pointer → Value → Except Mismatch α}
    {path : Pointer} {vs : List Value} {xs : List α} :
    ∀ {position}, eachFrom read path position vs = .ok xs →
      ∀ x ∈ xs, ∃ v ∈ vs, ∃ path, read path v = .ok x := by
  induction vs generalizing xs with
  | nil =>
    intro position h
    cases h
    exact fun _ hx => by cases hx
  | cons v rest ih =>
    intro position h
    obtain ⟨first, hfirst, h⟩ := bind_eq_ok_iff.1 h
    obtain ⟨others, hothers, h⟩ := bind_eq_ok_iff.1 h
    cases h
    intro x hx
    rcases List.mem_cons.1 hx with rfl | hx
    · exact ⟨v, List.mem_cons_self, _, hfirst⟩
    · obtain ⟨w, hw, hread⟩ := ih hothers x hx
      exact ⟨w, List.mem_cons_of_mem _ hw, hread⟩

theorem keeps_each {α : Type} {level : Nat} {read : Pointer → Value → Except Mismatch α}
    {Q : α → Prop} (h : Keeps limit (level + 1) read Q) {path : Pointer} {vs : List Value}
    (hvs : (Value.array vs).Readable limit level) {xs : List α}
    (hread : each read path vs = .ok xs) : ∀ x ∈ xs, Q x := by
  intro x hx
  obtain ⟨v, hv, path, hxv⟩ := exists_of_mem_eachFrom hread x hx
  exact h path v x (hvs.item hv) hxv

theorem keeps_filter (level : Nat) :
    Keeps limit level filter fun f => f.value.Readable limit (level + 1) := by
  intro path v x hv h
  unfold filter at h
  simp only [bind_eq_ok_iff] at h
  obtain ⟨ms, hms, key, -, operator, -, negated, -, h⟩ := h
  cases h
  rw [members_eq_ok hms] at hv
  cases hget : ms.get? "value" with
  | none => exact .null
  | some value => exact hv.get? hget

theorem keeps_filterGroup (level : Nat) :
    Keeps limit level filterGroup fun g => g.TestsWith (·.Readable limit (level + 3)) := by
  intro path v x hv h
  unfold filterGroup at h
  simp only [bind_eq_ok_iff] at h
  obtain ⟨ms, hms, filters, hfilters, disjunctive, -, h⟩ := h
  cases h
  rw [members_eq_ok hms] at hv
  intro given hgiven
  obtain rfl : filters = some given := hgiven
  unfold groupFilters at hfilters
  split at hfilters
  · cases hfilters
  · next list hget =>
    obtain ⟨vs, hvs, hfilters⟩ := bind_eq_ok_iff.1 hfilters
    obtain ⟨read, hread, hfilters⟩ := bind_eq_ok_iff.1 hfilters
    cases hfilters
    have hlist := hv.get? hget
    rw [items_eq_ok hvs] at hlist
    exact keeps_each (keeps_filter (level + 2)) hlist hread

theorem keeps_filterGroups (level : Nat) :
    Keeps limit level filterGroups fun groups =>
      ∀ g ∈ groups, g.TestsWith (·.Readable limit (level + 4)) := by
  intro path v x hv h
  obtain ⟨vs, hvs, h⟩ := bind_eq_ok_iff.1 h
  rw [items_eq_ok hvs] at hv
  exact keeps_each (keeps_filterGroup (level + 1)) hv h

end Decode

/-! ## Documents -/

/-- A step that reads one setting keeps the filters of the others. -/
theorem Defaults.Patch.testsWith_readMember {p p' : Patch} {m : String × Value}
    (hp : p.TestsWith (·.Readable limit 5)) (hm : m.2.Readable limit 1)
    (h : p.readMember m = .ok p') : p'.TestsWith (·.Readable limit 5) := by
  unfold readMember at h
  cases hname : Setting.ofName? m.1 with
  | none =>
    rw [hname] at h
    cases h
  | some setting =>
    rw [hname] at h
    have hread : p.read setting m.2 = .ok p' := mapError_eq_ok_iff.1 h
    cases setting with
    | mode =>
      obtain ⟨_, -, rfl⟩ := map_eq_ok_iff.1 hread
      exact hp
    | param param =>
      cases param with
      | filterGroups =>
        obtain ⟨groups, hgroups, rfl⟩ := map_eq_ok_iff.1 hread
        intro set hset
        cases hset
        exact Decode.keeps_filterGroups 1 _ m.2 groups hm hgroups
      | includes | sort | limit | page | groupBy | selects =>
        obtain ⟨_, -, rfl⟩ := map_eq_ok_iff.1 hread
        exact hp

theorem Defaults.Patch.testsWith_ofValue {v : Value} {p : Patch} (hv : v.Readable limit 0)
    (h : ofValue v = .ok p) : p.TestsWith (·.Readable limit 5) := by
  cases v with
  | object members =>
    refine foldlM_keeps ?_ (nofun : Patch.empty.TestsWith _) h
    intro p p' m hm hp hread
    exact testsWith_readMember hp (hv.member hm) hread
  | null | bool | number | string | array => cases h

theorem Defaults.testsWith_base : Defaults.base.TestsWith P := nofun

theorem Defaults.testsWith_apply {d : Defaults} {p : Patch} (hd : d.TestsWith P)
    (hp : p.TestsWith P) : (d.apply p).TestsWith P := by
  show ∀ g ∈ p.filterGroups.getD d.filterGroups, g.TestsWith P
  cases h : p.filterGroups with
  | none => exact hd
  | some groups => exact hp groups h

/-- The filters of a plan come from the request or from the defaults. -/
theorem Plan.testsWith_of_assemble {v : Value} {d : Defaults} {o : Plan}
    (hv : v.Readable limit 0) (hd : d.TestsWith (·.Readable limit 5))
    (h : assemble (.ofValue v) d = .ok o) : o.TestsWith (·.Readable limit 5) := by
  obtain ⟨e, hholds, hsettles⟩ := assemble_eq_ok_iff.1 h
  refine Filter.testsWith_settleFrom ?_ hsettles.filterGroups
  have heffective := hholds.values .filterGroups
  cases hgiven : Params.ofValue v Param.filterGroups.name with
  | none =>
    rw [Request.effective_of_absent hgiven] at heffective
    have hsame : d.filterGroups = e.filterGroups := Except.ok.inj heffective
    exact hsame ▸ hd
  | some groups =>
    rw [Request.effective_of_present hgiven] at heffective
    cases v with
    | object members =>
      exact Decode.keeps_filterGroups 1 _ groups _ (hv.get? hgiven)
        (mapError_eq_ok_iff.1 heffective)
    | null | bool | number | string | array => cases hgiven

end FetchPlan
