import FetchPlan.Text.Split

/-!
# The two sides of a separator

`before` and `after?` say without recursion what stands on the two sides of the first
separator of a text. Splitting gives exactly these two, they make up the whole text, and
two texts that are joined with a separator are found again, as long as the first holds
none.
-/

namespace FetchPlan.Text

/-- The text before the first `sep`, or the whole text when it has none. -/
def before (sep : Char) (s : String) : String :=
  String.ofList (s.toList.takeWhile (· ≠ sep))

/-- The text after the first `sep`, if it has one. -/
def after? (sep : Char) (s : String) : Option String :=
  match s.toList.dropWhile (· ≠ sep) with
  | [] => none
  | _ :: rest => some (String.ofList rest)

/-! ## Splitting -/

theorem cut_eq (sep : Char) (s : List Char) :
    cut sep s = (s.takeWhile (· ≠ sep),
      match s.dropWhile (· ≠ sep) with
      | [] => none
      | _ :: rest => some rest) := by
  induction s with
  | nil => rfl
  | cons c rest ih =>
    by_cases h : c = sep
    · simp [cut, h]
    · simp [cut, h, ih]

/-- Splitting a text gives its two sides. -/
theorem splitFirst_eq (sep : Char) (s : String) :
    splitFirst sep s = (before sep s, after? sep s) := by
  unfold splitFirst before after?
  rw [cut_eq]
  cases s.toList.dropWhile (· ≠ sep) <;> rfl

/-- The two sides as lists of characters. All that follows is read off this equation and
the lemmas on `cut`. -/
theorem cut_toList (sep : Char) (s : String) :
    cut sep s.toList = ((before sep s).toList, (after? sep s).map String.toList) := by
  rw [cut_eq]
  unfold before after?
  cases s.toList.dropWhile (· ≠ sep) <;> simp

/-! ## What the sides hold -/

/-- The first side holds no separator. -/
theorem not_mem_before (sep : Char) (s : String) : sep ∉ (before sep s).toList := by
  have h := not_mem_cut sep s.toList
  rwa [cut_toList] at h

/-- The two sides make up the whole text. -/
theorem uncut_sides (sep : Char) (s : String) :
    uncut sep ((before sep s).toList, (after? sep s).map String.toList) = s.toList := by
  rw [← cut_toList, uncut_cut]

/-- The first side holds only characters of the text. -/
theorem mem_of_mem_before {c sep : Char} {s : String} (h : c ∈ (before sep s).toList) :
    c ∈ s.toList := by
  rw [← uncut_sides sep s]
  cases after? sep s with
  | none => exact h
  | some after => exact List.mem_append_left _ h

/-- The second side holds only characters of the text. -/
theorem mem_of_mem_after {c sep : Char} {s second : String} (h : after? sep s = some second)
    (hc : c ∈ second.toList) : c ∈ s.toList := by
  rw [← uncut_sides sep s, h]
  exact List.mem_append_right _ (List.mem_cons_of_mem _ hc)

/-- There is a second side exactly when the text holds the separator. -/
theorem after?_eq_none_iff {sep : Char} {s : String} :
    after? sep s = none ↔ sep ∉ s.toList := by
  have hsides := uncut_sides sep s
  constructor
  · intro h
    rw [h] at hsides
    rw [← hsides]
    exact not_mem_before sep s
  · intro hmem
    cases h : after? sep s with
    | none => rfl
    | some after =>
      rw [h] at hsides
      exact absurd (hsides ▸ by simp [uncut]) hmem

/-! ## Joining -/

/-- The sides of a text that was put together from `first` and `second`. -/
theorem sides_of_uncut {sep : Char} {s first : String} {second : Option String}
    (hfirst : sep ∉ first.toList)
    (hs : s.toList = uncut sep (first.toList, second.map String.toList)) :
    before sep s = first ∧ after? sep s = second := by
  -- the text is cut where it was joined, so both sides agree as lists of characters
  have hcut := cut_toList sep s
  rw [hs, cut_uncut hfirst, Prod.mk.injEq] at hcut
  refine ⟨String.toList_injective hcut.1.symm, ?_⟩
  exact Option.map_injective (fun _ _ => String.toList_injective) hcut.2.symm

/-- Texts that are joined are told apart by the first separator. -/
theorem eq_of_append_cons_eq {sep : Char} {s t first first' : List Char}
    (hfirst : sep ∉ first) (hfirst' : sep ∉ first')
    (h : first ++ sep :: s = first' ++ sep :: t) : first = first' ∧ s = t := by
  have hcut : cut sep (first ++ sep :: s) = (first, some s) := cut_uncut hfirst (some s)
  have hcut' : cut sep (first' ++ sep :: t) = (first', some t) := cut_uncut hfirst' (some t)
  rw [h, hcut', Prod.mk.injEq, Option.some.injEq] at hcut
  exact ⟨hcut.1.symm, hcut.2.symm⟩

/-- A text without separators has one side. -/
theorem before_eq_self {sep : Char} {s : String} (h : sep ∉ s.toList) : before sep s = s := by
  have hs : s.toList = uncut sep (s.toList, (none : Option String).map String.toList) := rfl
  exact (sides_of_uncut h hs).1

end FetchPlan.Text
