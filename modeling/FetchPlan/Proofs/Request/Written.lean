import FetchPlan.Defaults.Basic
import FetchPlan.Request.Assembly

/-!
# Reading what is written

The lenient readers of a request give back whatever the writers write: parts that are left
out when they are not set are read as not set. So each default can stand in a request as
JSON, and a request can be filled up with the defaults that it falls back to.
-/

namespace FetchPlan

open Json (Value Members Pointer)

namespace Decode

/-! ## Readers and writers -/

/-- `read` gives back what `write` writes, wherever it stands in a request. -/
def Restores {α : Type} (read : Pointer → Value → Except Mismatch α) (write : α → Value) :
    Prop :=
  ∀ path x, read path (write x) = .ok x

theorem eachFrom_map {α : Type} {read : Pointer → Value → Except Mismatch α}
    {write : α → Value} (h : Restores read write) (path : Pointer) (xs : List α) :
    ∀ position, eachFrom read path position (xs.map write) = .ok xs := by
  induction xs with
  | nil =>
    intro position
    rfl
  | cons x xs ih =>
    intro position
    rw [List.map_cons, eachFrom, h, ih (position + 1)]
    rfl

/-- Items that are restored one by one are restored as a list. -/
theorem each_map {α : Type} {read : Pointer → Value → Except Mismatch α}
    {write : α → Value} (h : Restores read write) (path : Pointer) (xs : List α) :
    each read path (xs.map write) = .ok xs :=
  eachFrom_map h path xs 0

theorem restores_string : Restores string .string := fun _ _ => rfl

theorem restores_includes : Restores includes .ofStrings := by
  intro path tokens
  exact each_map restores_string path tokens

theorem restores_count : Restores count Count.toJson := by
  intro path n
  cases n with
  | none => rfl
  | some n =>
    have hof : countOf? (.ofNat n.toNat) = some (some n) := by
      show (Count.ofNat? n.toNat).map some = _
      rw [Count.ofNat?_toNat]
      rfl
    simp [count, Count.toJson, hof]

/-! ## Sort items -/

theorem restores_sortItem : Restores sortItem Sort.Draft.toJson := by
  rintro path ⟨field, _ | direction⟩
  · rfl
  · rfl

theorem restores_sort : Restores sort (fun drafts => .array (drafts.map Sort.Draft.toJson)) :=
  fun path drafts => each_map restores_sortItem path drafts

/-! ## Filters -/

theorem restores_filter : Restores filter Filter.Draft.toJson := by
  rintro path ⟨key, operator, value, _ | negated⟩
  · rfl
  · rfl

/-- The list of filters of a written group, whatever else the group says. -/
theorem groupFilters_written (path : Pointer) (filters : List Filter.Draft) (rest : Members) :
    groupFilters path (("filters", .array (filters.map Filter.Draft.toJson)) :: rest) =
      .ok (some filters) := by
  show (each filter (path ++ [.key "filters"]) (filters.map Filter.Draft.toJson) >>=
    fun filters => pure (some filters)) = _
  rw [each_map restores_filter]
  rfl

theorem restores_filterGroup : Restores filterGroup Filter.GroupDraft.toJson := by
  rintro path ⟨_ | filters, disjunctive⟩
  · cases disjunctive <;> rfl
  · -- the list of filters is written first and read by its own lemma; what is left to read
    -- is the joining
    unfold filterGroup
    simp only [Filter.GroupDraft.toJson, members, List.cons_append, List.nil_append]
    show (groupFilters path _ >>= _) = _
    rw [groupFilters_written]
    cases disjunctive <;> rfl

theorem restores_filterGroups :
    Restores filterGroups (fun groups => .array (groups.map Filter.GroupDraft.toJson)) :=
  fun path groups => each_map restores_filterGroup path groups

end Decode

end FetchPlan
