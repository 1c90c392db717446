import FetchPlan.Document.Files
import FetchPlan.Proofs.Request.Runs

/-!
# Writing to files

A file is put where there was no directory. So every path that led somewhere leads there
still, and the path that was written to leads to the new file, however it gets there.
-/

namespace FetchPlan.Files

variable {f : Files} {l : Location} {path : String} {content : ByteArray}

/-! ## Entries -/

theorem entry_put_self (hl : l ≠ []) (e : Entry) : entry? (f.put l e) l = some e := by
  unfold entry? put
  simp [hl]

theorem lookup_filter_ne {l' : Location} (hne : l' ≠ l) (entries : List (Location × Entry)) :
    (entries.filter (·.1 ≠ l)).lookup l' = entries.lookup l' := by
  induction entries with
  | nil => rfl
  | cons entry rest ih =>
    obtain ⟨k, e⟩ := entry
    by_cases hk : k = l
    · subst hk
      rw [List.filter_cons_of_neg (by simp), ih, List.lookup_cons, beq_false_of_ne hne]
    · rw [List.filter_cons_of_pos (by simpa using hk), List.lookup_cons, List.lookup_cons, ih]

theorem entry_put_of_ne {l' : Location} (hne : l' ≠ l) (e : Entry) :
    entry? (f.put l e) l' = f.entry? l' := by
  unfold entry? put
  rw [List.lookup_cons, beq_false_of_ne hne, lookup_filter_ne hne]

theorem ne_root_of_not_directory (hl : f.entry? l ≠ some .directory) : l ≠ [] := by
  rintro rfl
  exact hl rfl

theorem checkDirectory_eq_ok_iff : f.checkDirectory l = .ok () ↔ f.entry? l = some .directory := by
  unfold checkDirectory
  cases f.entry? l with
  | none => simp
  | some e => cases e <;> simp

/-! ## Paths after a file is put -/

section

variable (hl : f.entry? l ≠ some .directory)
include hl

theorem checkDirectory_put {here : Location} (h : f.checkDirectory here = .ok ()) :
    (f.put l (.file content)).checkDirectory here = .ok () := by
  rw [checkDirectory_eq_ok_iff] at h ⊢
  rw [entry_put_of_ne ?_, h]
  -- the file is not put where a directory is
  rintro rfl
  exact hl h

theorem isSome_put {l' : Location} (h : (f.entry? l').isSome) :
    ( entry? (f.put l (.file content)) l').isSome := by
  by_cases hsame : l' = l
  · rw [hsame, entry_put_self (ne_root_of_not_directory hl)]
    rfl
  · rwa [entry_put_of_ne hsame]

/-- One name leads where it led before. -/
theorem enter_put {here next : Location} {name : String} (h : f.enter here name = .ok next) :
    (f.put l (.file content)).enter here name = .ok next := by
  obtain ⟨⟨⟩, hdirectory, h⟩ := bind_eq_ok_iff.1 h
  rw [enter, checkDirectory_put hl hdirectory, ok_bind]
  by_cases hhere : name = "" ∨ name = "."
  · rw [if_pos hhere] at h ⊢
    exact h
  · rw [if_neg hhere] at h ⊢
    by_cases hup : name = ".."
    · rw [if_pos hup] at h ⊢
      exact h
    · rw [if_neg hup] at h ⊢
      obtain ⟨l', hchild, h⟩ := bind_eq_ok_iff.1 h
      rw [hchild, ok_bind]
      by_cases hsome : (f.entry? l').isSome
      · rw [if_pos hsome] at h
        rw [if_pos (isSome_put hl hsome)]
        exact h
      · rw [if_neg hsome] at h
        cases h

/-- The names of a path lead where they led before. -/
theorem foldlM_enter_put {parts : List String} :
    ∀ {here there}, parts.foldlM f.enter here = .ok there →
      parts.foldlM (f.put l (.file content)).enter here = .ok there := by
  induction parts with
  | nil =>
    intro here there h
    exact h
  | cons name parts ih =>
    intro here there h
    rw [List.foldlM_cons] at h ⊢
    obtain ⟨next, hnext, h⟩ := bind_eq_ok_iff.1 h
    rw [enter_put hl hnext, ok_bind]
    exact ih h

theorem locate_put {there : Location} (h : f.locate path = .ok there) :
    (f.put l (.file content)).locate path = .ok there := by
  obtain ⟨⟨⟩, hpath, h⟩ := bind_eq_ok_iff.1 h
  rw [locate, hpath, ok_bind]
  exact foldlM_enter_put hl h

end

/-! ## Where a path is written to -/

/-- The last name of a path that can be written to: it is a plain name that stands in a
directory, and is not itself that of a directory. -/
structure Targets (f : Files) (path : String) (l : Location) (front : List String)
    (last : String) (parent : Location) : Prop where
  checked : checkPath path = .ok ()
  parts : names path = front ++ [last]
  not_here : ¬ (last = "" ∨ last = ".")
  not_up : last ≠ ".."
  walk : front.foldlM f.enter (f.start path) = .ok parent
  directory : f.checkDirectory parent = .ok ()
  named : child parent last = .ok l
  no_directory : f.entry? l ≠ some .directory

/-- What is left of the parts when the empty ones at the end are dropped ends in a part that
is not empty. -/
theorem last_kept_ne_empty {parts : List String} {last : String}
    (h : (parts.reverse.dropWhile (· = "")).reverse.getLast? = some last) : last ≠ "" := by
  rw [List.getLast?_reverse] at h
  have hkept := List.head?_dropWhile_not (fun part : String => decide (part = "")) parts.reverse
  rw [h] at hkept
  simpa using hkept

theorem kept_eq_of_length_le {parts : List String}
    (h : parts.length ≤ (parts.reverse.dropWhile (· = "")).reverse.length) :
    (parts.reverse.dropWhile (· = "")).reverse = parts := by
  rw [List.length_reverse] at h
  rw [(List.dropWhile_suffix _).eq_of_length_le (by rwa [List.length_reverse]),
    List.reverse_reverse]

theorem targets_of_target (h : f.target path = .ok l) :
    ∃ front last parent, Targets f path l front last parent := by
  obtain ⟨⟨⟩, hpath, h⟩ := bind_eq_ok_iff.1 h
  dsimp only at h
  split at h
  · cases h
  · next last hlast =>
    obtain ⟨parent, hwalk, h⟩ := bind_eq_ok_iff.1 h
    obtain ⟨⟨⟩, hparent, h⟩ := bind_eq_ok_iff.1 h
    split at h
    · cases h
    · next hplain =>
      obtain ⟨l', hchild, h⟩ := bind_eq_ok_iff.1 h
      split at h
      · cases h
      · next hentry =>
        cases h
        have hempty := last_kept_ne_empty hlast
        rw [kept_eq_of_length_le (Nat.le_of_not_lt fun hlt => hplain (.inl hlt))] at hlast hwalk
        obtain ⟨front, hnames⟩ := List.getLast?_eq_some_iff.1 hlast
        rw [hnames, List.dropLast_concat] at hwalk
        refine ⟨front, last, parent, hpath, hnames, ?_, ?_, hwalk, hparent, hchild, hentry⟩
        · rintro (h | h)
          · exact hempty h
          · exact hplain (.inr (.inl h))
        · exact fun h => hplain (.inr (.inr h))

/-- The path that was written to leads to the file. -/
theorem locate_put_target (h : f.target path = .ok l) :
    (f.put l (.file content)).locate path = .ok l := by
  obtain ⟨front, last, parent, t⟩ := targets_of_target h
  have hwalk : front.foldlM (f.put l (.file content)).enter (f.start path) = .ok parent :=
    foldlM_enter_put t.no_directory t.walk
  have hdirectory : (f.put l (.file content)).checkDirectory parent = .ok () :=
    checkDirectory_put t.no_directory t.directory
  have hsome : ( entry? (f.put l (.file content)) l).isSome := by
    rw [entry_put_self (ne_root_of_not_directory t.no_directory)]
    rfl
  rw [locate, t.checked, ok_bind, t.parts, List.foldlM_append]
  show front.foldlM _ (f.start path) >>= _ = _
  rw [hwalk, ok_bind, List.foldlM_cons, enter, hdirectory, ok_bind, if_neg t.not_here,
    if_neg t.not_up, t.named, ok_bind, if_pos hsome]
  rfl

theorem write_eq_ok {f' : Files} (h : f.write path content = .ok f') :
    ∃ l, f.target path = .ok l ∧ f' = f.put l (.file content) := by
  obtain ⟨l, htarget, h⟩ := bind_eq_ok_iff.1 h
  cases h
  exact ⟨l, htarget, rfl⟩

/-! ## Files and their content -/

def content? (f : Files) (l : Location) : Option ByteArray :=
  match f.entry? l with
  | some (.file content) => some content
  | _ => none

/-- The location of the file that a path leads to. -/
def named (f : Files) (path : String) : Option Location :=
  match f.locate path with
  | .ok l => if (f.content? l).isSome then some l else none
  | .error _ => none

theorem named_eq_some_iff :
    f.named path = some l ↔ f.locate path = .ok l ∧ (f.content? l).isSome := by
  unfold named
  cases f.locate path with
  | error _ => simp
  | ok l' =>
    by_cases h : (f.content? l').isSome
    · simp only [h, if_true, Option.some.injEq, Except.ok.injEq]
      constructor
      · rintro rfl
        exact ⟨rfl, h⟩
      · exact And.left
    · simp only [h, Except.ok.injEq]
      constructor
      · intro hnone
        cases hnone
      · rintro ⟨rfl, hsome⟩
        exact absurd hsome h

theorem content?_put_self (hl : f.entry? l ≠ some .directory) :
    (f.put l (.file content)).content? l = some content := by
  rw [content?, entry_put_self (ne_root_of_not_directory hl)]

theorem content?_put_of_ne {l' : Location} (hne : l' ≠ l) (e : Entry) :
    (f.put l e).content? l' = f.content? l' := by
  rw [content?, entry_put_of_ne hne, content?]

/-- What is read is the content of the file that the path leads to. -/
theorem read_eq_ok (h : f.read path = .ok content) :
    ∃ l, f.named path = some l ∧ f.content? l = some content := by
  obtain ⟨l, hlocate, h⟩ := bind_eq_ok_iff.1 h
  have hcontent : f.content? l = some content := by
    unfold content?
    split at h
    · next hentry =>
      cases h
      rw [hentry]
    · cases h
    · cases h
  refine ⟨l, named_eq_some_iff.2 ⟨hlocate, ?_⟩, hcontent⟩
  rw [hcontent]
  rfl

/-- A path that led to a file before it was written to leads to that file. -/
theorem named_of_target {l' : Location} (h : f.target path = .ok l)
    (hnamed : f.named path = some l') : l' = l := by
  obtain ⟨_, _, _, t⟩ := targets_of_target h
  have hlocate : (f.put l (.file .empty)).locate path = .ok l' :=
    locate_put t.no_directory (named_eq_some_iff.1 hnamed).1
  exact Except.ok.inj (hlocate.symm.trans (locate_put_target h))

end FetchPlan.Files
