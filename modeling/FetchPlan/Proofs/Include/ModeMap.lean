import FetchPlan.Include.Modes
import FetchPlan.Json.Value
import Mathlib.Data.List.Induction
import Mathlib.Data.List.Sort

/-!
# Mode maps by their keys

A mode map is determined by what it gives for each key. Where the mode is a function of
the key, as it is for the heads of tokens, only the set of the keys matters: neither their
order nor how often they come.
-/

namespace FetchPlan.Include

/-! ## Entries in order -/

theorem lookup_cons_ite (key k m : String) (rest : List (String × String)) :
    ((k, m) :: rest).lookup key = if key = k then some m else rest.lookup key := by
  rw [List.lookup_cons]
  by_cases h : key = k
  · simp [h]
  · have hbeq : (key == k) = false := by simpa using h
    rw [hbeq, if_neg h]

/-- In a list of entries in order, an entry is found under its key. -/
theorem lookup_eq_some_iff_mem {entries : List (String × String)}
    (h : entries.Pairwise (fun a b => a.1 < b.1)) {key mode : String} :
    entries.lookup key = some mode ↔ (key, mode) ∈ entries := by
  induction entries with
  | nil => simp
  | cons e rest ih =>
    obtain ⟨k, m⟩ := e
    obtain ⟨hk, hrest⟩ := List.pairwise_cons.1 h
    rw [lookup_cons_ite]
    by_cases hkey : key = k
    · subst hkey
      have hnot : (key, mode) ∉ rest := fun hmem => String.lt_irrefl key (hk _ hmem)
      simp [hnot, eq_comm]
    · rw [if_neg hkey, ih hrest]
      simp [hkey]

/-- Giving a key a mode changes what is found under this key and nothing else. -/
theorem lookup_insertEntry (key mode k : String) (entries : List (String × String)) :
    (insertEntry key mode entries).lookup k =
      if k = key then some mode else entries.lookup k := by
  induction entries with
  | nil => rw [insertEntry, lookup_cons_ite]
  | cons e rest ih =>
    obtain ⟨k', m⟩ := e
    simp only [insertEntry]
    split
    · rw [lookup_cons_ite]
    · split
      · next heq =>
        rw [lookup_cons_ite, lookup_cons_ite, ← heq]
        by_cases hk : k = key <;> simp [hk]
      · next hne =>
        rw [lookup_cons_ite, lookup_cons_ite, ih]
        by_cases hk : k = k'
        · rw [if_pos hk, if_pos hk, if_neg (hk ▸ Ne.symm hne)]
        · rw [if_neg hk, if_neg hk]

namespace Modes

/-- The keys that have a mode, in order. -/
def keys (modes : Modes) : List String := modes.entries.map Prod.fst

theorem mem_keys_iff {modes : Modes} {key : String} :
    key ∈ modes.keys ↔ ∃ mode, (key, mode) ∈ modes.entries := by
  simp [keys]

theorem keys_sorted (modes : Modes) : modes.keys.Pairwise (· < ·) :=
  List.pairwise_map.2 modes.sorted

theorem nodup_keys (modes : Modes) : modes.keys.Nodup := by
  apply modes.keys_sorted.imp
  intro k k' hlt heq
  subst heq
  exact String.lt_irrefl k hlt

/-- The modes as they are written. -/
def members (modes : Modes) : Json.Members :=
  modes.entries.map fun (key, mode) => (key, .string mode)

theorem mem_entries_iff {modes : Modes} {key mode : String} :
    (key, mode) ∈ modes.entries ↔ modes.get? key = some mode :=
  (lookup_eq_some_iff_mem modes.sorted).symm

theorem get?_insert (modes : Modes) (key mode k : String) :
    (modes.insert key mode).get? k = if k = key then some mode else modes.get? k :=
  lookup_insertEntry key mode k modes.entries

/-- **Extensionality.** Two mode maps that give the same for each key are equal: entries in
strict order with the same members are the same list. -/
theorem ext_get? {a b : Modes} (h : ∀ key, a.get? key = b.get? key) : a = b := by
  have hmem : ∀ e, e ∈ a.entries ↔ e ∈ b.entries := by
    rintro ⟨key, mode⟩
    rw [mem_entries_iff, mem_entries_iff, h]
  have hirrefl : Std.Irrefl (fun a b : String × String => a.1 < b.1) :=
    ⟨fun e => String.lt_irrefl e.1⟩
  have hantisymm : Std.Antisymm (fun a b : String × String => a.1 < b.1) :=
    ⟨fun e e' hlt hgt => absurd (String.lt_trans hlt hgt) (String.lt_irrefl e.1)⟩
  -- a list in strict order is determined by its members
  have hentries : a.entries = b.entries := a.sorted.eq_of_mem_iff b.sorted hmem
  cases a
  cases b
  cases hentries
  rfl

/-! ## Modes that depend on the key alone -/

/-- The map of the keys in `keys`, where each key has the mode that `mode` gives it. -/
def ofKeys (mode : String → String) (keys : List String) : Modes :=
  ofList (keys.map fun key => (key, mode key))

/-- One more key is inserted last. -/
theorem ofKeys_append_singleton (mode : String → String) (keys : List String) (key : String) :
    ofKeys mode (keys ++ [key]) = (ofKeys mode keys).insert key (mode key) := by
  simp [ofKeys, ofList]

theorem get?_ofKeys (mode : String → String) (keys : List String) (key : String) :
    (ofKeys mode keys).get? key = if key ∈ keys then some (mode key) else none := by
  induction keys using List.reverseRecOn with
  | nil => rfl
  | append_singleton keys last ih =>
    rw [ofKeys_append_singleton, get?_insert, ih]
    by_cases hlast : key = last
    · subst hlast
      simp
    · simp [hlast]

theorem mem_entries_ofKeys {mode : String → String} {keys : List String}
    {key m : String} :
    (key, m) ∈ (ofKeys mode keys).entries ↔ key ∈ keys ∧ m = mode key := by
  rw [mem_entries_iff, get?_ofKeys]
  by_cases h : key ∈ keys
  · simp [h, eq_comm]
  · simp [h]

theorem mem_keys_ofKeys {mode : String → String} {keys : List String} {key : String} :
    key ∈ (ofKeys mode keys).keys ↔ key ∈ keys := by
  simp [mem_keys_iff, mem_entries_ofKeys]

/-- Neither the order of the keys matters nor how often they come. -/
theorem ofKeys_congr {mode : String → String} {keys keys' : List String}
    (h : ∀ key, key ∈ keys ↔ key ∈ keys') : ofKeys mode keys = ofKeys mode keys' := by
  apply ext_get?
  intro key
  simp only [get?_ofKeys, h key]

/-- A map with these keys in which each mode is the one of its key. -/
theorem eq_ofKeys {modes : Modes} {mode : String → String} {keys : List String}
    (hkeys : ∀ key, key ∈ modes.keys ↔ key ∈ keys)
    (hmode : ∀ key m, (key, m) ∈ modes.entries → m = mode key) :
    modes = ofKeys mode keys := by
  apply ext_get?
  intro key
  rw [get?_ofKeys]
  cases hget : modes.get? key with
  | none =>
    have hnot : key ∉ keys := by
      rw [← hkeys]
      intro hmem
      obtain ⟨m, hm⟩ := mem_keys_iff.1 hmem
      rw [mem_entries_iff, hget] at hm
      cases hm
    rw [if_neg hnot]
  | some m =>
    have hm : (key, m) ∈ modes.entries := mem_entries_iff.2 hget
    rw [if_pos ((hkeys key).1 (mem_keys_iff.2 ⟨m, hm⟩)), hmode key m hm]

end Modes

end FetchPlan.Include
