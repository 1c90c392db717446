import FetchPlan.Proofs.Request.Runs
import FetchPlan.Proofs.Request.Shapes

/-!
# Objects that are read

Sort items, filters and groups are objects. What is read from one of them is said by what
stands under its names, and by nothing else.
-/

namespace FetchPlan

open Json (Value Members Pointer)

namespace Decode

variable {ms : Members} {path : Pointer} {key : String}

/-! ## Members -/

theorem requiredString_eq_ok {s : String} :
    requiredString path ms key = .ok s ↔ ms.get? key = some (.string s) := by
  unfold requiredString
  cases ms.get? key with
  | none => simp
  | some v => cases v <;> simp [string]

theorem flag_eq_ok {v : Value} {b : Bool} : flag path v = .ok b ↔ v ∈ flagForms b := by
  rw [← flagOf?_eq_some_iff]
  unfold flag
  cases flagOf? v <;> simp

/-- An optional value is none when it is left out or null. -/
theorem optional_eq_ok {α : Type} {read : Pointer → Value → Except Mismatch α} {x : Option α} :
    optional read path ms key = .ok x ↔
      x = none ∧ (ms.get? key = none ∨ ms.get? key = some .null) ∨
      ∃ v y, ms.get? key = some v ∧ v ≠ .null ∧ read (path ++ [.key key]) v = .ok y ∧
        some y = x := by
  unfold optional
  cases ms.get? key with
  | none => simp [eq_comm]
  | some v =>
    cases v with
    | null => simp [eq_comm]
    | bool | number | string | array | object => simp [map_eq_ok_iff]

/-! ## Records -/

theorem sortItem_object {d : Sort.Draft} :
    sortItem path (.object ms) = .ok d ↔
      requiredString path ms "field" = .ok d.field ∧
      optional string path ms "direction" = .ok d.direction := by
  obtain ⟨field, direction⟩ := d
  simp [sortItem, members, ok_bind, bind_eq_ok_iff, pure, Except.pure]

theorem filter_object {d : Filter.Draft} :
    filter path (.object ms) = .ok d ↔
      requiredString path ms "key" = .ok d.key ∧
      requiredString path ms "operator" = .ok d.operator ∧
      (ms.get? "value").getD .null = d.value ∧
      optional flag path ms "not" = .ok d.negated := by
  obtain ⟨key, operator, value, negated⟩ := d
  simp only [filter, members, ok_bind, bind_eq_ok_iff, pure, Except.pure, Except.ok.injEq,
    Filter.Draft.mk.injEq]
  constructor
  · rintro ⟨_, hkey, _, hoperator, _, hnegated, rfl, rfl, hvalue, rfl⟩
    exact ⟨hkey, hoperator, hvalue, hnegated⟩
  · rintro ⟨hkey, hoperator, hvalue, hnegated⟩
    exact ⟨_, hkey, _, hoperator, _, hnegated, rfl, rfl, hvalue, rfl⟩

theorem filterGroup_object {d : Filter.GroupDraft} :
    filterGroup path (.object ms) = .ok d ↔
      groupFilters path ms = .ok d.filters ∧ optional flag path ms "or" = .ok d.disjunctive := by
  obtain ⟨filters, disjunctive⟩ := d
  simp [filterGroup, members, ok_bind, bind_eq_ok_iff, pure, Except.pure]

/-- The filters of a group are there when they stand in an array. -/
theorem groupFilters_eq_some {filters : List Filter.Draft} :
    groupFilters path ms = .ok (some filters) ↔
      ∃ vs, ms.get? "filters" = some (.array vs) ∧
        each filter (path ++ [.key "filters"]) vs = .ok filters := by
  unfold groupFilters
  cases ms.get? "filters" with
  | none => simp
  | some v =>
    cases v with
    | array vs => simp [items, ok_bind, bind_eq_ok_iff, pure, Except.pure]
    | null | bool | number | string | object => simp [items, bind, Except.bind]

end Decode

end FetchPlan
