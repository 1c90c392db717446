/-!
# Splitting at a separator

A text is cut at the first occurrence of a separator; what follows may hold the separator
again.
-/

namespace FetchPlan.Text

/-- The characters before the first `sep` and, when there is one, those after it. -/
def cut (sep : Char) : List Char → List Char × Option (List Char)
  | [] => ([], none)
  | c :: rest =>
    if c = sep then ([], some rest)
    else
      let (before, after) := cut sep rest
      (c :: before, after)

/-- Puts the two sides of a separator together again. -/
def uncut (sep : Char) (parts : List Char × Option (List Char)) : List Char :=
  match parts with
  | (before, none) => before
  | (before, some after) => before ++ sep :: after

/-- The text before the first `sep` and, when there is one, the text after it. -/
def splitFirst (sep : Char) (s : String) : String × Option String :=
  let (before, after) := cut sep s.toList
  (String.ofList before, after.map String.ofList)

/-- Nothing is lost. -/
theorem uncut_cut (sep : Char) (s : List Char) : uncut sep (cut sep s) = s := by
  induction s with
  | nil => rfl
  | cons c rest ih =>
    simp only [cut]
    split
    · next h => simp [uncut, h]
    · revert ih
      rcases cut sep rest with ⟨before, _ | after⟩ <;> simp [uncut]

/-- The first side holds no separator. -/
theorem not_mem_cut (sep : Char) (s : List Char) : sep ∉ (cut sep s).1 := by
  induction s with
  | nil => simp [cut]
  | cons c rest ih =>
    simp only [cut]
    split
    · simp
    · next h => simpa [Ne.symm h] using ih

/-- Cutting finds the separator that was put in. -/
theorem cut_uncut {sep : Char} {before : List Char} (h : sep ∉ before)
    (after : Option (List Char)) : cut sep (uncut sep (before, after)) = (before, after) := by
  induction before with
  | nil => cases after <;> simp [uncut, cut]
  | cons c rest ih =>
    simp only [List.mem_cons, not_or] at h
    have ih := ih h.2
    cases after <;> simp_all [uncut, cut, Ne.symm h.1]

end FetchPlan.Text
