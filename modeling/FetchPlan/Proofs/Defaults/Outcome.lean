import FetchPlan.Proofs.Defaults.Documents

/-!
# The outcome of a defaults document

Each member of a document is sound or faulty by itself. A document whose members are all
sound is accepted and sets what they say; any other document is refused for the first of
its faulty members, whatever comes after it. So the order of the members may decide which
fault is reported, but never whether there is one, nor what is set.
-/

namespace FetchPlan.Defaults.Patch

open Json (Value Members)

/-! ## Sound and faulty members -/

/-- The keys that a document may have. -/
def Setting.names : List String :=
  ["includes", "sort", "limit", "page", "filter_groups", "group_by", "selects", "mode"]

/-- The key of the member names the setting `s`, and its value is read as `x` there. -/
structure Says (member : String × Value) (s : Setting) (x : s.Content) : Prop where
  name : s.name = member.1
  value : s.decode member.2 = .ok x

/-- A member that says something. -/
def Sound (member : String × Value) : Prop := ∃ s x, Says member s x

/-- A member that cannot be read, with the fault that is reported for it. -/
inductive Faulty : String × Value → Error → Prop
  | unknown {key : String} (v : Value) (unknown : key ∉ Setting.names) :
    Faulty (key, v) (.unknownKey key)
  | shape {s : Setting} {v : Value} {m : Mismatch} (refused : s.decode v = .error m) :
    Faulty (s.name, v) (.mismatch m)

/-- `e` is the fault of the first faulty member. -/
def FirstFault (members : Members) (e : Error) : Prop :=
  ∃ front member back, members = front ++ member :: back ∧
    (∀ earlier ∈ front, Sound earlier) ∧ Faulty member e

theorem Setting.ofName?_eq_none_iff {key : String} : ofName? key = none ↔ key ∉ names := by
  have hall : all.map name = names := rfl
  simp [ofName?, ← hall]

theorem fault?_eq_none_iff {member : String × Value} : fault? member = none ↔ Sound member := by
  obtain ⟨key, v⟩ := member
  constructor
  · intro h
    unfold fault? at h
    cases hname : Setting.ofName? key with
    | none =>
      simp only [hname] at h
      cases h
    | some s =>
      simp only [hname] at h
      obtain ⟨x, hx⟩ := stop?_eq_none_iff.1 (Option.map_eq_none_iff.1 h)
      exact ⟨s, x, Setting.ofName?_eq_some hname, hx⟩
  · rintro ⟨s, x, rfl, hx⟩
    rw [fault?_name, stop?_eq_none_iff.2 ⟨x, hx⟩]
    rfl

theorem fault?_eq_some_iff {member : String × Value} {e : Error} :
    fault? member = some e ↔ Faulty member e := by
  obtain ⟨key, v⟩ := member
  constructor
  · intro h
    cases e with
    | unknownKey key' =>
      unfold fault? at h
      cases hname : Setting.ofName? key with
      | none =>
        simp only [hname] at h
        cases h
        exact .unknown v (Setting.ofName?_eq_none_iff.1 hname)
      | some s => simp [hname] at h
    | mismatch m =>
      obtain ⟨s, rfl, hread⟩ := fault?_eq_mismatch h
      exact .shape hread
  · rintro (⟨_, hkey⟩ | hread)
    · simp only [fault?, Setting.ofName?_eq_none_iff.2 hkey]
    · rw [fault?_name, stop?_eq_some_iff.2 hread]
      rfl

/-! ## Acceptance -/

section

variable {members : Members} {patch : Patch}

/-- A document is accepted when all its members are sound. -/
theorem exists_ofValue_eq_ok_iff :
    (∃ patch, ofValue (.object members) = .ok patch) ↔ ∀ member ∈ members, Sound member := by
  have hstop : stop? (ofValue (.object members)) = members.findSome? fault? :=
    stop?_foldlM members empty
  rw [← stop?_eq_none_iff, hstop, List.findSome?_eq_none_iff]
  simp only [fault?_eq_none_iff]

theorem ofValue_eq_error_iff_firstFault {e : Error} :
    ofValue (.object members) = .error e ↔ FirstFault members e := by
  rw [ofValue_eq_error_iff, List.findSome?_eq_some_iff]
  simp only [fault?_eq_none_iff, fault?_eq_some_iff]
  constructor
  · rintro ⟨front, member, back, heq, hfault, hfront⟩
    exact ⟨front, member, back, heq, hfront, hfault⟩
  · rintro ⟨front, member, back, heq, hfront, hfault⟩
    exact ⟨front, member, back, heq, hfault, hfront⟩

/-- What an accepted document sets: each setting that it names, to what its value is read
as. -/
theorem get?_eq_some_iff (hdistinct : members.keys.Nodup)
    (h : ofValue (.object members) = .ok patch) {s : Setting} {x : s.Content} :
    patch.get? s = some x ↔
      ∃ v, members.get? s.name = some v ∧ s.decode v = .ok x := by
  have hsets := sets_of_foldlM hdistinct h
  cases hget : members.get? s.name with
  | none =>
    rw [hsets.kept s hget, get?_empty]
    simp
  | some v =>
    obtain ⟨y, hy, hset⟩ := hsets.given s v hget
    rw [hset]
    simp [hy]

/-- A patch is what it holds for its settings. -/
@[ext] theorem ext_get? {p q : Patch} (h : ∀ s, p.get? s = q.get? s) : p = q := by
  obtain ⟨includes, sort, limit, page, mode, filterGroups, groupBy, selects⟩ := p
  rw [mk.injEq]
  exact ⟨h (.param .includes), h (.param .sort), h (.param .limit), h (.param .page), h .mode,
    h (.param .filterGroups), h (.param .groupBy), h (.param .selects)⟩

/-- Two documents in which the same is found under each key set the same. -/
theorem eq_of_get?_eq {members' : Members} {patch' : Patch} (hdistinct : members.keys.Nodup)
    (hdistinct' : members'.keys.Nodup) (hfound : ∀ name, members.get? name = members'.get? name)
    (h : ofValue (.object members) = .ok patch)
    (h' : ofValue (.object members') = .ok patch') : patch = patch' := by
  ext s x
  rw [get?_eq_some_iff hdistinct h, get?_eq_some_iff hdistinct' h', hfound]

/-- The order of the members decides neither acceptance nor what is set. -/
theorem ofValue_perm {members' : Members} (hdistinct : members.keys.Nodup)
    (hperm : members.Perm members') (h : ofValue (.object members) = .ok patch) :
    ofValue (.object members') = .ok patch := by
  have hsound := exists_ofValue_eq_ok_iff.1 ⟨patch, h⟩
  have hsound' : ∀ member ∈ members', Sound member :=
    fun member hmem => hsound member (hperm.mem_iff.2 hmem)
  obtain ⟨patch', h'⟩ := exists_ofValue_eq_ok_iff.2 hsound'
  rw [h', eq_of_get?_eq hdistinct (Members.nodup_keys_perm hperm hdistinct)
    (Members.get?_perm hperm hdistinct) h h']

end

/-- **Outcome.** A value is accepted as a defaults document exactly when it is an object
with sound members only, and then it sets what they say and nothing else. An object that
is refused is refused for the first of its faulty members. In another order the same
members give the same, or are refused as well. -/
theorem documents_read_exactly :
    (∀ v : Value, (∃ patch, ofValue v = .ok patch) ↔
      ∃ members, v = .object members ∧ ∀ member ∈ members, Sound member) ∧
    ∀ members : Members,
      (∀ e, ofValue (.object members) = .error e ↔ FirstFault members e) ∧
      (members.keys.Nodup →
        (∀ patch, ofValue (.object members) = .ok patch →
          ∀ (s : Setting) (x : s.Content),
            patch.get? s = some x ↔ ∃ member ∈ members, Says member s x) ∧
        ∀ members' : Members, members.Perm members' →
          (∃ patch, ofValue (.object members) = .ok patch ∧
            ofValue (.object members') = .ok patch) ∨
          ∃ e e', ofValue (.object members) = .error e ∧
            ofValue (.object members') = .error e') := by
  refine ⟨?_, fun members => ⟨fun e => ofValue_eq_error_iff_firstFault, ?_⟩⟩
  · intro v
    cases v with
    | object members => simp [exists_ofValue_eq_ok_iff]
    | null | bool | number | string | array => simp [ofValue]
  · intro hdistinct
    constructor
    · intro patch h s x
      rw [get?_eq_some_iff hdistinct h]
      constructor
      · rintro ⟨v, hget, hread⟩
        exact ⟨(s.name, v), Members.mem_of_get?_eq_some hget, rfl, hread⟩
      · rintro ⟨⟨key, v⟩, hmem, rfl, hread⟩
        exact ⟨v, Members.get?_of_mem hdistinct hmem, hread⟩
    · intro members' hperm
      cases h : ofValue (.object members) with
      | ok patch => exact .inl ⟨patch, rfl, ofValue_perm hdistinct hperm h⟩
      | error e =>
        -- were the other order accepted, so would this one be
        refine .inr ⟨e, ?_⟩
        cases h' : ofValue (.object members') with
        | error e' => exact ⟨e', rfl, rfl⟩
        | ok patch' =>
          have hdistinct' := Members.nodup_keys_perm hperm hdistinct
          rw [ofValue_perm hdistinct' hperm.symm h'] at h
          cases h

namespace Outcome

/-- A document that clears the page. -/
def accepted : Members := [
  ("page", .string ""), ("mode", .string "ids"), ("limit", .string "007")]

def reordered : Members := [
  ("limit", .string "007"), ("page", .string ""), ("mode", .string "ids")]

def patch : Patch :=
  { Patch.empty with limit := some (some 7), page := some none, mode := some "ids" }

/-- A document with an unknown key and a wrong shape. -/
def refused : Members := [
  ("mode", .string "ids"), ("limt", .ofNat 7), ("sort", .null)]

def refusedReordered : Members := [
  ("sort", .null), ("limt", .ofNat 7), ("mode", .string "ids")]

end Outcome

/-- The accepted document sets the same in both orders, and each order of the refused one
has a fault of its own. -/
theorem documents_read_exactly_reordered :
    Outcome.accepted.keys.Nodup ∧ Outcome.accepted.Perm Outcome.reordered ∧
      ofValue (.object Outcome.accepted) = .ok Outcome.patch ∧
      ofValue (.object Outcome.reordered) = .ok Outcome.patch ∧
      (∃ member ∈ Outcome.accepted, Says member (.param .page) none) ∧
      Outcome.refused.keys.Nodup ∧ Outcome.refused.Perm Outcome.refusedReordered ∧
      FirstFault Outcome.refused (.unknownKey "limt") ∧
      FirstFault Outcome.refusedReordered
        (.mismatch ⟨[.key "sort"], .sortItems, .kind .null⟩) ∧
      ∃ e e', ofValue (.object Outcome.refused) = .error e ∧
        ofValue (.object Outcome.refusedReordered) = .error e' := by
  have hdistinct : Outcome.accepted.keys.Nodup := by decide
  have hperm : Outcome.accepted.Perm Outcome.reordered := by decide +kernel
  have haccepted : ofValue (.object Outcome.accepted) = .ok Outcome.patch := rfl
  have hdistinct' : Outcome.refused.keys.Nodup := by decide
  have hperm' : Outcome.refused.Perm Outcome.refusedReordered := by decide +kernel
  have hunknown : ofValue (.object Outcome.refused) = .error (.unknownKey "limt") :=
    stop?_eq_some_iff.1 (by decide +kernel)
  have hshape : ofValue (.object Outcome.refusedReordered) =
      .error (.mismatch ⟨[.key "sort"], .sortItems, .kind .null⟩) :=
    stop?_eq_some_iff.1 (by decide +kernel)
  obtain ⟨-, h⟩ := documents_read_exactly
  have hsays := ((h Outcome.accepted).2 hdistinct).1 _ haccepted (.param .page) none
  have hsame := ((h Outcome.accepted).2 hdistinct).2 _ hperm
  have hboth := ((h Outcome.refused).2 hdistinct').2 _ hperm'
  refine ⟨hdistinct, hperm, haccepted, ?_, hsays.1 rfl, hdistinct', hperm',
    ((h Outcome.refused).1 _).1 hunknown, ((h Outcome.refusedReordered).1 _).1 hshape, ?_⟩
  · rcases hsame with ⟨patch, hpatch, hpatch'⟩ | ⟨e, -, herror, -⟩
    · rw [haccepted] at hpatch
      cases hpatch
      exact hpatch'
    · rw [haccepted] at herror
      cases herror
  · rcases hboth with ⟨patch, hpatch, -⟩ | hboth
    · rw [hunknown] at hpatch
      cases hpatch
    · exact hboth

end FetchPlan.Defaults.Patch
