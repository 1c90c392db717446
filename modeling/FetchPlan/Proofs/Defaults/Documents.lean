import FetchPlan.Defaults.Document
import FetchPlan.Proofs.Json.Members
import FetchPlan.Proofs.Request.Checked
import FetchPlan.Proofs.Request.Contents
import FetchPlan.Proofs.Request.Runs

/-!
# What defaults documents say

The settings of a patch are a family over their names, and what a patch means is what it
holds for each of them. One member of a document either sets one setting and keeps all
others, or is at fault, which does not depend on the members before it. So a document is
refused for the first fault among its members, and otherwise sets what its members say.
-/

namespace FetchPlan.Defaults

open Json (Value Members)

namespace Patch

/-! ## Settings -/

namespace Setting

/-- What a setting holds once it is read. -/
abbrev Content : Setting → Type
  | .param p => p.Content
  | .mode => String

/-- Reads a setting; only the mode is not a parameter. -/
def decode : (s : Setting) → Value → Except Mismatch s.Content
  | .param p => p.read p.path
  | .mode => Decode.string [.key "mode"]

theorem ofName?_eq_some {key : String} {s : Setting} (h : ofName? key = some s) :
    s.name = key := by
  simpa using List.find?_some h

theorem ofName?_name (s : Setting) : ofName? s.name = some s := by
  rcases s with p | _
  · cases p <;> decide
  · decide

theorem name_injective {s t : Setting} (h : s.name = t.name) : s = t := by
  have hname := ofName?_name t
  rw [← h, ofName?_name s] at hname
  exact Option.some.inj hname

end Setting

/-- What a patch holds for a setting, if it sets it. -/
def get? (patch : Patch) : (s : Setting) → Option s.Content
  | .param .includes => patch.includes
  | .param .sort => patch.sort
  | .param .limit => patch.limit
  | .param .page => patch.page
  | .param .filterGroups => patch.filterGroups
  | .param .groupBy => patch.groupBy
  | .param .selects => patch.selects
  | .mode => patch.mode

/-- The patch with one setting set. -/
def set (patch : Patch) : (s : Setting) → s.Content → Patch
  | .param .includes, x => { patch with includes := some x }
  | .param .sort, x => { patch with sort := some x }
  | .param .limit, x => { patch with limit := some x }
  | .param .page, x => { patch with page := some x }
  | .param .filterGroups, x => { patch with filterGroups := some x }
  | .param .groupBy, x => { patch with groupBy := some x }
  | .param .selects, x => { patch with selects := some x }
  | .mode, x => { patch with mode := some x }

@[simp] theorem get?_empty (s : Setting) : empty.get? s = none := by
  rcases s with p | _
  · cases p <;> rfl
  · rfl

@[simp] theorem get?_set_self (patch : Patch) (s : Setting) (x : s.Content) :
    (patch.set s x).get? s = some x := by
  rcases s with p | _
  · cases p <;> rfl
  · rfl

theorem get?_set_of_ne {s t : Setting} (h : t ≠ s) (patch : Patch) (x : s.Content) :
    (patch.set s x).get? t = patch.get? t := by
  rcases s with p | _ <;> rcases t with q | _
  · cases p <;> cases q <;> first | rfl | exact absurd rfl h
  · cases p <;> rfl
  · cases q <;> rfl
  · exact absurd rfl h

/-! ## Reading members -/

/-- Reading sets the setting to what is read. -/
theorem read_eq (patch : Patch) (s : Setting) (v : Value) :
    patch.read s v = (s.decode v).map (patch.set s) := by
  rcases s with p | _
  · cases p <;> rfl
  · rfl

/-- The fault of a member: its key is unknown, or its value has a wrong shape. -/
def fault? (member : String × Value) : Option Error :=
  match Setting.ofName? member.1 with
  | none => some (.unknownKey member.1)
  | some s => (stop? (s.decode member.2)).map .mismatch

theorem fault?_name (s : Setting) (v : Value) :
    fault? (s.name, v) = (stop? (s.decode v)).map .mismatch := by
  simp only [fault?, Setting.ofName?_name]

theorem fault?_eq_mismatch {key : String} {v : Value} {m : Mismatch}
    (h : fault? (key, v) = some (.mismatch m)) :
    ∃ s : Setting, s.name = key ∧ s.decode v = .error m := by
  unfold fault? at h
  cases hname : Setting.ofName? key with
  | none =>
    simp only [hname] at h
    cases h
  | some s =>
    simp only [hname] at h
    obtain ⟨m', hm, heq⟩ := Option.map_eq_some_iff.1 h
    cases heq
    exact ⟨s, Setting.ofName?_eq_some hname, stop?_eq_some_iff.1 hm⟩

theorem stop?_readMember (patch : Patch) (member : String × Value) :
    stop? (patch.readMember member) = fault? member := by
  unfold readMember fault?
  cases Setting.ofName? member.1 with
  | none => rfl
  | some s =>
    dsimp only
    rw [read_eq, stop?_mapError]
    cases s.decode member.2 <;> rfl

/-- One step: the setting of the member's name is set to what its value is read as. -/
theorem readMember_eq_ok {before after : Patch} {key : String} {v : Value}
    (h : before.readMember (key, v) = .ok after) :
    ∃ (s : Setting) (x : s.Content),
      s.name = key ∧ s.decode v = .ok x ∧ after = before.set s x := by
  unfold readMember at h
  cases hname : Setting.ofName? key with
  | none =>
    simp only [hname] at h
    cases h
  | some s =>
    simp only [hname, read_eq] at h
    obtain ⟨x, hx, rfl⟩ := map_eq_ok_iff.1 (mapError_eq_ok_iff.1 h)
    exact ⟨s, x, Setting.ofName?_eq_some hname, hx, rfl⟩

/-- The patch `after` holds what the members say, and what `before` holds for the settings
that they leave out. -/
structure Sets (before : Patch) (members : Members) (after : Patch) : Prop where
  given : ∀ s v, members.get? (Setting.name s) = some v →
    ∃ x, s.decode v = .ok x ∧ after.get? s = some x
  kept : ∀ s, members.get? (Setting.name s) = none → after.get? s = before.get? s

/-- A run: the first member sets its setting, and no later one has the same name. -/
theorem sets_of_foldlM {members : Members} (hdistinct : members.keys.Nodup)
    {before after : Patch} (h : members.foldlM readMember before = .ok after) :
    Sets before members after := by
  induction members generalizing before with
  | nil =>
    cases h
    exact ⟨nofun, fun _ _ => rfl⟩
  | cons member rest ih =>
    obtain ⟨key, v⟩ := member
    obtain ⟨hkey, hrest⟩ := List.nodup_cons.1 hdistinct
    rw [List.foldlM_cons] at h
    obtain ⟨next, hnext, h⟩ := bind_eq_ok_iff.1 h
    obtain ⟨s, x, rfl, hx, rfl⟩ := readMember_eq_ok hnext
    have hsets := ih hrest h
    have habsent : Members.get? rest s.name = none := Members.get?_eq_none hkey
    constructor
    · intro t w hget
      by_cases heq : t = s
      · subst heq
        rw [Members.get?_cons_self] at hget
        cases hget
        exact ⟨x, hx, by rw [hsets.kept t habsent, get?_set_self]⟩
      · rw [Members.get?_cons_of_ne fun hname => heq (Setting.name_injective hname)] at hget
        exact hsets.given t w hget
    · intro t hget
      have hne : t ≠ s := by
        rintro rfl
        rw [Members.get?_cons_self] at hget
        cases hget
      rw [Members.get?_cons_of_ne fun hname => hne (Setting.name_injective hname)] at hget
      rw [hsets.kept t hget, get?_set_of_ne hne]

theorem stop?_foldlM (members : Members) :
    ∀ patch : Patch, stop? (members.foldlM readMember patch) = members.findSome? fault? := by
  induction members with
  | nil => exact fun _ => rfl
  | cons member rest ih =>
    intro patch
    have hstep := stop?_readMember patch member
    rw [List.foldlM_cons, List.findSome?_cons, ← hstep]
    cases patch.readMember member with
    | error e => rfl
    | ok next => exact ih next

/-- **First fault.** A document is refused for the first fault among its members. -/
theorem ofValue_eq_error_iff {members : Members} {e : Error} :
    ofValue (.object members) = .error e ↔ members.findSome? fault? = some e := by
  rw [← stop?_eq_some_iff, ← stop?_foldlM members empty]
  rfl

end Patch

/-! ## Patched defaults -/

/-- After a patch the old default holds where the patch sets nothing. -/
theorem get_apply (d : Defaults) (patch : Patch) (p : Param) :
    (d.apply patch).get p = (patch.get? (.param p)).getD (d.get p) := by
  cases p <;> rfl

end FetchPlan.Defaults
