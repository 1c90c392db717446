import FetchPlan.Proofs.Defaults.Outcome
import Mathlib.Data.List.Nodup

/-!
# Reading a patch back

A patch is written with one member for each setting that it sets, and no others. Whatever
order these members are brought into, the document that they make is accepted, and it sets
the same again: a setting that is not set stays so, and one that is cleared stays cleared.
-/

namespace FetchPlan.Defaults.Patch

open Json (Value Members)

/-! ## Writing settings -/

/-- Writes a setting. -/
def Setting.write : (s : Setting) → s.Content → Value
  | .param p => p.write
  | .mode => .string

theorem Setting.decode_write (s : Setting) (x : s.Content) : s.decode (s.write x) = .ok x := by
  cases s with
  | param p => exact p.restores p.path x
  | mode => rfl

/-- The settings in the order in which they are written. -/
def Setting.ordered : List Setting := [
  .param .includes, .param .sort, .param .limit, .param .page, .mode, .param .filterGroups,
  .param .groupBy, .param .selects]

theorem Setting.mem_ordered (s : Setting) : s ∈ ordered := by
  rcases s with p | _
  · cases p <;> decide
  · decide

/-- The members that a patch is written with. -/
def written (patch : Patch) : Members :=
  Setting.ordered.flatMap fun s => member s.name s.write (patch.get? s)

theorem toJson_eq (patch : Patch) : patch.toJson = .object patch.written := by
  simp [toJson, written, Setting.ordered, List.flatMap_cons, get?, Setting.name, Param.name,
    Setting.write, Param.write]

/-! ## Documents that say what a patch sets -/

/-- The members say what the patch sets, each setting as it is written, and nothing else. -/
structure WrittenAs (patch : Patch) (members : Members) : Prop where
  distinct : members.keys.Nodup
  mem_iff : ∀ key v, (key, v) ∈ members ↔
    ∃ (s : Setting) (x : s.Content), s.name = key ∧ patch.get? s = some x ∧ s.write x = v

theorem mem_member_iff {α : Type} {name key : String} {write : α → Value} {value : Option α}
    {v : Value} :
    (key, v) ∈ member name write value ↔ ∃ x, name = key ∧ value = some x ∧ write x = v := by
  cases value <;> simp [member, eq_comm]

/-- At most one member is written for each setting, in their order. -/
theorem keys_flatMap_sublist (patch : Patch) (settings : List Setting) :
    (Members.keys (settings.flatMap fun s => member s.name s.write (patch.get? s))).Sublist
      (settings.map Setting.name) := by
  induction settings with
  | nil => exact .refl _
  | cons s rest ih =>
    rw [List.flatMap_cons, List.map_cons]
    cases patch.get? s with
    | none => exact ih.cons _
    | some x => exact ih.cons_cons _

theorem writtenAs_written (patch : Patch) : patch.WrittenAs patch.written where
  distinct := (patch.keys_flatMap_sublist Setting.ordered).nodup (by decide)
  mem_iff key v := by
    rw [written, List.mem_flatMap]
    constructor
    · rintro ⟨s, -, hmem⟩
      exact ⟨s, mem_member_iff.1 hmem⟩
    · rintro ⟨s, h⟩
      exact ⟨s, s.mem_ordered, mem_member_iff.2 h⟩

/-- What a patch is written as is determined but for the order. -/
theorem writtenAs_iff_perm {patch : Patch} {members members' : Members}
    (h : patch.WrittenAs members) : patch.WrittenAs members' ↔ members'.Perm members := by
  constructor
  · intro h'
    rw [List.perm_ext_iff_of_nodup h'.distinct.of_map h.distinct.of_map]
    rintro ⟨key, v⟩
    rw [h.mem_iff, h'.mem_iff]
  · intro hperm
    refine ⟨Members.nodup_keys_perm hperm.symm h.distinct, fun key v => ?_⟩
    rw [hperm.mem_iff, h.mem_iff]

/-- A document that says what a patch sets is read as this patch. -/
theorem WrittenAs.ofValue {patch : Patch} {members : Members} (h : patch.WrittenAs members) :
    ofValue (.object members) = .ok patch := by
  have hsound : ∀ member ∈ members, Sound member := by
    rintro ⟨key, v⟩ hmem
    obtain ⟨s, x, rfl, -, rfl⟩ := (h.mem_iff key v).1 hmem
    exact ⟨s, x, rfl, s.decode_write x⟩
  obtain ⟨patch', hread⟩ := exists_ofValue_eq_ok_iff.2 hsound
  suffices hsame : patch' = patch by rw [hread, hsame]
  ext s x
  rw [get?_eq_some_iff h.distinct hread]
  constructor
  · rintro ⟨v, hget, hx⟩
    obtain ⟨t, y, hname, hset, rfl⟩ := (h.mem_iff s.name v).1 (Members.mem_of_get?_eq_some hget)
    obtain rfl := Setting.name_injective hname
    rw [t.decode_write] at hx
    cases hx
    exact hset
  · intro hset
    have hmem := (h.mem_iff s.name (s.write x)).2 ⟨s, x, rfl, hset, rfl⟩
    exact ⟨s.write x, Members.get?_of_mem h.distinct hmem, s.decode_write x⟩

/-- **Reading back.** The members that a patch is written with, in whatever order, are
those that say what it sets and nothing else; and the document that they make is read as
the patch. -/
theorem reading_undoes_writing (patch : Patch) :
    ∃ members, patch.toJson = .object members ∧
      (∀ members' : Members, members'.Perm members ↔ patch.WrittenAs members') ∧
      ∀ members' : Members, members'.Perm members →
        ofValue (.object members') = .ok patch := by
  refine ⟨patch.written, patch.toJson_eq, ?_, ?_⟩
  · exact fun members' => (writtenAs_iff_perm patch.writtenAs_written).symm
  · intro members' hperm
    exact ((writtenAs_iff_perm patch.writtenAs_written).2 hperm).ofValue

namespace Rereading

/-- A patch that clears the limit and has a group without filters. -/
def patch : Patch :=
  { Patch.empty with
    includes := some []
    limit := some none
    filterGroups := some [⟨none, some true⟩, ⟨some [⟨"age", "gt", .null, none⟩], none⟩] }

/-- What it is written with, the other way round. -/
def reversed : Members := [
  ("filter_groups", .array [
    .object [("or", .bool true)],
    .object [("filters", .array [
      .object [("key", .string "age"), ("operator", .string "gt"), ("value", .null)]])]]),
  ("limit", .null),
  ("includes", .array [])]

end Rereading

theorem reading_undoes_writing_reversed :
    ∃ members, Rereading.patch.toJson = .object members ∧
      Rereading.reversed.Perm members ∧ Rereading.patch.WrittenAs Rereading.reversed ∧
      ofValue (.object Rereading.reversed) = .ok Rereading.patch := by
  obtain ⟨members, hjson, hperm, hread⟩ := reading_undoes_writing Rereading.patch
  have hreversed : Rereading.reversed.Perm members := by
    cases hjson
    decide +kernel
  exact ⟨members, hjson, hreversed, (hperm _).1 hreversed, hread _ hreversed⟩

end FetchPlan.Defaults.Patch
