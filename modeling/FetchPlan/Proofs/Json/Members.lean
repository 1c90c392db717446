import FetchPlan.Json.Value

/-!
# Members by name

In an object with distinct keys a member is found under its key, and under no other; so the
order of the members does not matter to any lookup. Writing a member changes what is found
under its key and nothing else, and of several members of one key the last one stays.
-/

namespace FetchPlan.Json.Members

/-- The keys of the members, in order. -/
def keys (members : Members) : List String := members.map Prod.fst

variable {members : Members} {name : String} {v : Value}

theorem mem_of_lookup {α : Type} {entries : List (String × α)} {x : α}
    (h : entries.lookup name = some x) : (name, x) ∈ entries := by
  obtain ⟨before, after, rfl, -⟩ := List.lookup_eq_some_iff.1 h
  exact List.mem_append_right before List.mem_cons_self

theorem mem_of_get?_eq_some (h : get? members name = some v) : (name, v) ∈ members :=
  mem_of_lookup h

theorem get?_of_mem (hdistinct : (keys members).Nodup) (h : (name, v) ∈ members) :
    get? members name = some v := by
  induction members with
  | nil => cases h
  | cons m rest ih =>
    obtain ⟨k, w⟩ := m
    obtain ⟨hk, hrest⟩ := List.nodup_cons.1 hdistinct
    rw [get?, List.lookup_cons]
    rcases List.mem_cons.1 h with heq | hmem
    · cases heq
      rw [beq_self_eq_true]
    · -- the key stands further back, so it is not the first one
      have hne : name ≠ k := by
        rintro rfl
        exact hk (List.mem_map.2 ⟨_, hmem, rfl⟩)
      rw [beq_false_of_ne hne]
      exact ih hrest hmem

theorem get?_eq_some_iff (hdistinct : (keys members).Nodup) :
    get? members name = some v ↔ (name, v) ∈ members :=
  ⟨mem_of_get?_eq_some, get?_of_mem hdistinct⟩

theorem get?_eq_none (h : name ∉ keys members) : get? members name = none := by
  cases hget : get? members name with
  | none => rfl
  | some v => exact absurd (List.mem_map_of_mem (mem_of_get?_eq_some hget)) h

/-! ## Lookups in longer objects -/

theorem get?_append (before after : Members) (name : String) :
    get? (before ++ after) name = (get? before name).or (get? after name) :=
  List.lookup_append

theorem get?_cons_self (name : String) (v : Value) (rest : Members) :
    get? ((name, v) :: rest) name = some v := by
  simp [get?]

theorem get?_cons_of_ne {k : String} (h : name ≠ k) (v : Value) (rest : Members) :
    get? ((k, v) :: rest) name = get? rest name := by
  simp [get?, List.lookup_cons, beq_false_of_ne h]

theorem nodup_keys_perm {members' : Members} (h : members.Perm members')
    (hdistinct : (keys members).Nodup) : (keys members').Nodup :=
  (h.map Prod.fst).nodup_iff.1 hdistinct

/-- The order of the members does not matter. -/
theorem get?_perm {members' : Members} (h : members.Perm members')
    (hdistinct : (keys members).Nodup) (name : String) :
    get? members name = get? members' name := by
  ext v
  rw [get?_eq_some_iff hdistinct, get?_eq_some_iff (nodup_keys_perm h hdistinct), h.mem_iff]

/-! ## Writing members -/

theorem mem_insert {members : Members} {name : String} {v : Value} {m : String × Value}
    (h : m ∈ insert members name v) : m = (name, v) ∨ m ∈ members := by
  induction members with
  | nil => simpa [insert] using h
  | cons head rest ih =>
    obtain ⟨k, w⟩ := head
    rw [insert] at h
    split at h
    · next hk =>
      rcases List.mem_cons.1 h with rfl | h
      · exact .inl (by rw [hk])
      · exact .inr (List.mem_cons_of_mem _ h)
    · rcases List.mem_cons.1 h with rfl | h
      · exact .inr List.mem_cons_self
      · exact (ih h).imp_right (List.mem_cons_of_mem _)

theorem keys_insert (members : Members) (name : String) (v : Value) :
    keys (insert members name v) =
      if name ∈ keys members then keys members else keys members ++ [name] := by
  induction members with
  | nil => rfl
  | cons head rest ih =>
    obtain ⟨k, w⟩ := head
    rw [insert]
    by_cases hk : k = name
    · rw [if_pos hk]
      simp [keys, hk]
    · rw [if_neg hk]
      show k :: keys (insert rest name v) = _
      rw [ih]
      by_cases hmem : name ∈ keys rest
      · simp_all [keys]
      · simp_all [keys, Ne.symm hk]

theorem insert_of_not_mem {members : Members} {name : String} (h : name ∉ keys members)
    (v : Value) : insert members name v = members ++ [(name, v)] := by
  induction members with
  | nil => rfl
  | cons m rest ih =>
    obtain ⟨k, w⟩ := m
    have hk : k ≠ name := fun heq => h (heq ▸ List.mem_cons_self)
    rw [insert, if_neg hk, ih fun hmem => h (List.mem_cons_of_mem _ hmem)]
    rfl

theorem nodup_keys_insert (h : (keys members).Nodup) (name : String) (v : Value) :
    (keys (insert members name v)).Nodup := by
  rw [keys_insert]
  split
  · exact h
  · next hmem => simpa [List.nodup_append] using ⟨h, fun k hk heq => hmem (heq ▸ hk)⟩

theorem get?_insert (members : Members) (k : String) (v : Value) (name : String) :
    get? (insert members k v) name = if name = k then some v else get? members name := by
  induction members with
  | nil =>
    by_cases hname : name = k
    · rw [insert, if_pos hname, hname, get?_cons_self]
    · rw [insert, if_neg hname, get?_cons_of_ne hname]
  | cons head rest ih =>
    obtain ⟨j, w⟩ := head
    rw [insert]
    split
    · next hj =>
      subst hj
      by_cases hname : name = j
      · rw [if_pos hname, hname, get?_cons_self]
      · rw [if_neg hname, get?_cons_of_ne hname, get?_cons_of_ne hname]
    · next hj =>
      by_cases hname : name = j
      · rw [hname, get?_cons_self, get?_cons_self, if_neg hj]
      · rw [get?_cons_of_ne hname, get?_cons_of_ne hname, ih]

/-- The pairs of an object give members with distinct keys, all of them from the pairs. -/
theorem ofPairs_sound (pairs : Members) :
    (keys (ofPairs pairs)).Nodup ∧ ∀ m ∈ ofPairs pairs, m ∈ pairs := by
  apply List.foldlRecOn (motive := fun ms => (keys ms).Nodup ∧ ∀ m ∈ ms, m ∈ pairs)
  · exact ⟨List.nodup_nil, nofun⟩
  · rintro before ⟨hnodup, hbefore⟩ p hp
    refine ⟨nodup_keys_insert hnodup p.1 p.2, fun m hm => ?_⟩
    rcases mem_insert hm with rfl | hm
    · exact hp
    · exact hbefore m hm

/-- Under each key the last pair is found that has it. -/
theorem get?_ofPairs (pairs : Members) (name : String) :
    get? (ofPairs pairs) name = get? pairs.reverse name := by
  have hfold : ∀ before : Members,
      get? (pairs.foldl (fun members p => insert members p.1 p.2) before) name =
        (get? pairs.reverse name).or (get? before name) := by
    induction pairs with
    | nil => exact fun before => rfl
    | cons p rest ih =>
      intro before
      have hlast : (get? [p] name).or (get? before name) =
          get? (insert before p.1 p.2) name := by
        rw [get?_insert]
        by_cases hname : name = p.1
        · rw [if_pos hname, hname, get?_cons_self]
          rfl
        · rw [if_neg hname, get?_cons_of_ne hname]
          rfl
      rw [List.foldl_cons, ih, List.reverse_cons, get?_append, Option.or_assoc, hlast]
  rw [ofPairs, hfold []]
  exact Option.or_none

/-- Pairs with distinct keys are the members that they write. -/
theorem ofPairs_of_nodup {pairs : Members} (h : (keys pairs).Nodup) : ofPairs pairs = pairs := by
  have hfold : ∀ before : Members, (keys (before ++ pairs)).Nodup →
      pairs.foldl (fun members p => insert members p.1 p.2) before = before ++ pairs := by
    induction pairs with
    | nil => simp
    | cons p rest ih =>
      obtain ⟨k, v⟩ := p
      intro before hkeys
      have hk : k ∉ keys before := by
        intro hmem
        rw [keys, List.map_append] at hkeys
        exact (List.nodup_append.1 hkeys).2.2 k hmem k List.mem_cons_self rfl
      have hsplit : before ++ (k, v) :: rest = (before ++ [(k, v)]) ++ rest := by simp
      rw [List.foldl_cons, insert_of_not_mem hk, hsplit]
      exact ih (List.nodup_cons.1 h).2 _ (hsplit ▸ hkeys)
  exact hfold [] h

end FetchPlan.Json.Members
