import FetchPlan.Plan
import FetchPlan.Proofs.Json.Members
import FetchPlan.Proofs.Request.Contents

/-!
# Well-formed values

A JSON value that was read from a text has distinct keys in each object, integers of 64
bits and binary64 numbers in their one form. Writers keep this: they add keys of their own,
all distinct, around values that are given.
-/

namespace FetchPlan

open Json (Value Members)

/-- A binary64 number in the one form in which it is kept: all 53 digits of the significand
are used, unless the exponent is the least one. -/
structure Decimal.Binary64.WellFormed (x : Decimal.Binary64) : Prop where
  significand_lt : x.significand < Nat.pow 2 precision
  leastExponent_le : leastExponent ≤ x.exponent
  le_greatestExponent : x.exponent ≤ greatestExponent
  full : Nat.pow 2 (precision - 1) ≤ x.significand ∨ x.exponent = leastExponent

/-- A number that a text can give. -/
def Json.Number.WellFormed : Json.Number → Prop
  | .integer i => inRange i
  | .float x => x.WellFormed

/-- A value that a text can give. -/
inductive Json.Value.WellFormed : Value → Prop
  | null : WellFormed .null
  | bool (b : Bool) : WellFormed (.bool b)
  | number {n : Json.Number} (h : n.WellFormed) : WellFormed (.number n)
  | string (s : String) : WellFormed (.string s)
  | array {items : List Value} (h : ∀ v ∈ items, WellFormed v) : WellFormed (.array items)
  | object {members : Members} (distinct : (members.map Prod.fst).Nodup)
      (h : ∀ m ∈ members, WellFormed m.2) : WellFormed (.object members)

open Json.Value (WellFormed)

/-! ## Parts -/

namespace Json.Value

@[simp] theorem wellFormed_null : (Value.null).WellFormed := .null

@[simp] theorem wellFormed_bool (b : Bool) : (Value.bool b).WellFormed := .bool b

@[simp] theorem wellFormed_string (s : String) : (Value.string s).WellFormed := .string s

@[simp] theorem wellFormed_number_iff {n : Number} :
    (Value.number n).WellFormed ↔ n.WellFormed := by
  constructor
  · rintro ⟨⟩
    assumption
  · exact .number

@[simp] theorem wellFormed_array_iff {vs : List Value} :
    (Value.array vs).WellFormed ↔ ∀ v ∈ vs, v.WellFormed := by
  constructor
  · rintro ⟨⟩
    assumption
  · exact .array

@[simp] theorem wellFormed_object_iff {ms : Members} :
    (Value.object ms).WellFormed ↔ ms.keys.Nodup ∧ ∀ m ∈ ms, m.2.WellFormed := by
  constructor
  · rintro ⟨⟩
    exact ⟨by assumption, by assumption⟩
  · rintro ⟨hdistinct, hmembers⟩
    exact .object hdistinct hmembers

theorem WellFormed.distinct {ms : Members} (h : (Value.object ms).WellFormed) : ms.keys.Nodup :=
  (wellFormed_object_iff.1 h).1

theorem WellFormed.get? {ms : Members} (h : (Value.object ms).WellFormed) {name : String}
    {v : Value} (hget : ms.get? name = some v) : v.WellFormed :=
  (wellFormed_object_iff.1 h).2 _ (Members.mem_of_get?_eq_some hget)

end Json.Value

/-! ## Writing -/

/-- A list is written well-formed when each of its items is. -/
theorem wellFormed_array_map {α : Type} {write : α → Value} {xs : List α}
    (h : ∀ x ∈ xs, (write x).WellFormed) : (Value.array (xs.map write)).WellFormed := by
  apply WellFormed.array
  intro v hv
  obtain ⟨x, hx, rfl⟩ := List.mem_map.1 hv
  exact h x hx

theorem wellFormed_ofStrings (texts : List String) : (Value.ofStrings texts).WellFormed :=
  wellFormed_array_map fun text _ => .string text

theorem Count.wellFormed_toJson (count : Option Count) : (Count.toJson count).WellFormed := by
  cases count with
  | none => exact .null
  | some n =>
    have hlt : n.toNat < 2 ^ 64 := n.toNat_lt
    apply WellFormed.number
    show Json.Number.inRange n.toNat = true
    rw [Json.Number.inRange, decide_eq_true_eq]
    omega

theorem Sort.Draft.wellFormed_toJson (draft : Sort.Draft) : draft.toJson.WellFormed := by
  rcases draft with ⟨field, _ | direction⟩
  · exact .object (by simp) (by simp [WellFormed.string])
  · exact .object (by simp) (by simp [WellFormed.string])

/-- A filter is written well-formed around a well-formed value. -/
theorem Filter.Draft.wellFormed_toJson {draft : Filter.Draft} (h : draft.value.WellFormed) :
    draft.toJson.WellFormed := by
  rcases draft with ⟨key, operator, value, _ | negated⟩
  · exact .object (by simp) (by simpa [WellFormed.string] using h)
  · exact .object (by simp) (by simpa [WellFormed.string, WellFormed.bool] using h)

theorem Filter.GroupDraft.wellFormed_toJson {group : Filter.GroupDraft}
    (h : ∀ filters, group.filters = some filters → ∀ f ∈ filters, f.value.WellFormed) :
    group.toJson.WellFormed := by
  have hfilters : ∀ filters, group.filters = some filters →
      (Value.array (filters.map Filter.Draft.toJson)).WellFormed := by
    intro filters hgroup
    apply wellFormed_array_map
    intro f hf
    exact Filter.Draft.wellFormed_toJson (h filters hgroup f hf)
  rcases group with ⟨_ | filters, _ | disjunctive⟩
  · exact .object (by simp) (by simp)
  · exact .object (by simp) (by simp [WellFormed.bool])
  · exact .object (by simp) (by simpa using hfilters filters rfl)
  · exact .object (by simp) (by simpa [WellFormed.bool] using hfilters filters rfl)

/-! ## Defaults and plans -/

/-- Defaults whose filters test with well-formed values. -/
def Defaults.WellFormed (d : Defaults) : Prop :=
  ∀ group ∈ d.filterGroups, ∀ filters, group.filters = some filters →
    ∀ f ∈ filters, f.value.WellFormed

/-- A plan whose filters test with well-formed values. -/
def Plan.WellFormed (o : Plan) : Prop :=
  ∀ group ∈ o.filterGroups, ∀ test ∈ group.filters, test.value.WellFormed

theorem Defaults.wellFormed_written {d : Defaults} (h : d.WellFormed) (p : Param) :
    (d.written p).WellFormed := by
  cases p with
  | includes => exact wellFormed_ofStrings d.includes
  | sort => exact wellFormed_array_map fun draft _ => draft.wellFormed_toJson
  | limit => exact Count.wellFormed_toJson d.limit
  | page => exact Count.wellFormed_toJson d.page
  | filterGroups =>
    exact wellFormed_array_map fun group hgroup =>
      Filter.GroupDraft.wellFormed_toJson (h group hgroup)
  | groupBy => exact .string d.groupBy
  | selects => exact .string d.selects

end FetchPlan
