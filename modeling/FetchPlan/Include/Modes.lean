/-!
# Modes

Each include head has one mode. The entries are kept by key in the order of code points,
which is also the order of their UTF-8 bytes; so equal maps have equal entries.
-/

namespace FetchPlan.Include

/-- Gives `key` a mode, in the place where it keeps the entries in order. -/
def insertEntry (key mode : String) : List (String × String) → List (String × String)
  | [] => [(key, mode)]
  | (k, m) :: rest =>
    if key < k then (key, mode) :: (k, m) :: rest
    else if key = k then (key, mode) :: rest
    else (k, m) :: insertEntry key mode rest

/-- The entries hold the new one and old ones. -/
theorem mem_insertEntry {key mode : String} {entries : List (String × String)}
    {e : String × String} (h : e ∈ insertEntry key mode entries) :
    e = (key, mode) ∨ e ∈ entries := by
  induction entries with
  | nil => simpa [insertEntry] using h
  | cons head rest ih =>
    obtain ⟨k, m⟩ := head
    simp only [insertEntry] at h
    split at h
    · simpa using h
    · split at h
      · rcases List.mem_cons.1 h with h | h
        · exact .inl h
        · exact .inr (List.mem_cons_of_mem _ h)
      · rcases List.mem_cons.1 h with h | h
        · exact .inr (by simp [h])
        · rcases ih h with h | h
          · exact .inl h
          · exact .inr (List.mem_cons_of_mem _ h)

/-- Inserting keeps the entries in order. -/
theorem pairwise_insertEntry (key mode : String) {entries : List (String × String)}
    (h : entries.Pairwise (fun a b => a.1 < b.1)) :
    (insertEntry key mode entries).Pairwise (fun a b => a.1 < b.1) := by
  induction entries with
  | nil => simp [insertEntry]
  | cons head rest ih =>
    obtain ⟨k, m⟩ := head
    obtain ⟨hk, hrest⟩ := List.pairwise_cons.1 h
    simp only [insertEntry]
    split
    · next hlt =>
      refine List.pairwise_cons.2 ⟨fun e he => ?_, h⟩
      rcases List.mem_cons.1 he with rfl | he
      · exact hlt
      · exact String.lt_trans hlt (hk e he)
    · split
      · next heq => exact List.pairwise_cons.2 ⟨fun e he => heq ▸ hk e he, hrest⟩
      · next hlt hne =>
        refine List.pairwise_cons.2 ⟨fun e he => ?_, ih hrest⟩
        rcases mem_insertEntry he with rfl | he
        · exact (Std.lt_trichotomy key k).resolve_left hlt |>.resolve_left hne
        · exact hk e he

/-- A map from include heads to modes. -/
structure Modes where
  entries : List (String × String)
  sorted : entries.Pairwise (fun a b => a.1 < b.1)
deriving DecidableEq

namespace Modes

def empty : Modes := ⟨[], .nil⟩

/-- Gives `key` a mode, in place of the one it had. -/
def insert (modes : Modes) (key mode : String) : Modes :=
  ⟨insertEntry key mode modes.entries, pairwise_insertEntry key mode modes.sorted⟩

def get? (modes : Modes) (key : String) : Option String := modes.entries.lookup key

/-- The map that a list of entries writes, one after the other. -/
def ofList (entries : List (String × String)) : Modes :=
  entries.foldl (fun modes e => modes.insert e.1 e.2) empty

end Modes

end FetchPlan.Include
