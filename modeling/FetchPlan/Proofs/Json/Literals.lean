import FetchPlan.Json.Printer

/-!
# Written string literals

A string is read back from its literal, whatever it holds and whatever follows: each
character is written as one piece, and the pieces make up the string.
-/

namespace FetchPlan.Json.Literal

/-! ## The forms of characters -/

/-- How a character is written: with a backslash and a letter, by number, or as it is. -/
inductive Form (c : Char) : List Char → Prop
  | letter {e : Char} (named : unescape e = some c) (unnumbered : e ≠ 'u') : Form c ['\\', e]
  | number (control : c.toNat < 0x20) :
    Form c ['\\', 'u', '0', '0', hexDigit (c.toNat / 16), hexDigit c.toNat]
  | plain (quote : c ≠ '"') (slash : c ≠ '\\') (printable : 0x20 ≤ c.toNat) : Form c [c]

theorem form_escape (c : Char) : Form c (escape c) := by
  unfold escape
  -- the seven characters that have a letter
  iterate 7
    split
    · next h =>
      subst h
      exact .letter rfl (by decide)
  split
  · next h => exact .number h
  · next hquote hslash _ _ _ _ _ h => exact .plain hquote hslash (Nat.le_of_not_lt h)

/-! ## Reading a literal -/

/-- The piece that a character is written as: the rare controls, written with six
characters, are given by number. -/
def pieceOf (c : Char) : Piece :=
  if (escape c).length = 6 then .unit c.toNat else .char c

theorem hexUnit_control : ∀ n < 0x20,
    hexUnit '0' '0' (hexDigit (n / 16)) (hexDigit n) = some n := by
  decide

theorem pieces_letter {e c : Char} (hnamed : unescape e = some c) (hu : e ≠ 'u')
    (rest : List Char) :
    pieces ('\\' :: e :: rest) = (pieces rest).map fun r => (.char c :: r.1, r.2) := by
  rw [pieces]
  · rw [hnamed]
    cases pieces rest <;> rfl
  · intros
    simp_all

theorem pieces_plain {c : Char} (hquote : c ≠ '"') (hslash : c ≠ '\\')
    (hprintable : 0x20 ≤ c.toNat) (rest : List Char) :
    pieces (c :: rest) = (pieces rest).map fun r => (.char c :: r.1, r.2) := by
  rw [pieces]
  · rw [if_pos hprintable]
    cases pieces rest <;> rfl
  all_goals
    intros
    simp_all

theorem pieces_escape (c : Char) (rest : List Char) :
    pieces (escape c ++ rest) = (pieces rest).map fun r => (pieceOf c :: r.1, r.2) := by
  unfold pieceOf
  have hform := form_escape c
  generalize escape c = written at hform
  cases hform with
  | letter hnamed hu => exact pieces_letter hnamed hu rest
  | number hcontrol =>
    simp only [List.cons_append, List.nil_append, pieces, hexUnit_control c.toNat hcontrol]
    cases pieces rest <;> rfl
  | plain hquote hslash hprintable => exact pieces_plain hquote hslash hprintable rest

theorem pieces_text (s rest : List Char) :
    pieces (s.flatMap escape ++ '"' :: rest) = some (s.map pieceOf, rest) := by
  induction s with
  | nil => rfl
  | cons c s ih =>
    rw [List.flatMap_cons, List.append_assoc, pieces_escape, ih]
    rfl

/-! ## The string of a literal -/

/-- A unit below the surrogates is a character of its own. -/
theorem join_unit {n : Nat} (h : n < 0x20) (ps : List Piece) :
    join (.unit n :: ps) = (join ps).map (Char.ofNat n :: ·) := by
  have hhigh : isHigh n = false := by simp [isHigh]; omega
  have hlow : isLow n = false := by simp [isLow]; omega
  cases ps with
  | nil => simp [join, hhigh, hlow]
  | cons p ps =>
    cases p with
    | char c => simp [join, hhigh, hlow]
    | unit m => simp [join, hhigh, hlow]

theorem toNat_lt_of_length_escape {c : Char} (h : (escape c).length = 6) : c.toNat < 0x20 := by
  have hform := form_escape c
  generalize escape c = written at hform h
  cases hform with
  | letter => cases h
  | number hcontrol => exact hcontrol
  | plain => cases h

theorem join_map_pieceOf (s : List Char) : join (s.map pieceOf) = some s := by
  induction s with
  | nil => rfl
  | cons c s ih =>
    rw [List.map_cons]
    unfold pieceOf
    split
    · next h =>
      rw [join_unit (toNat_lt_of_length_escape h)]
      change (join (s.map pieceOf)).map _ = _
      rw [ih, Char.ofNat_toNat]
      rfl
    · rw [join]
      change (join (s.map pieceOf)).map _ = _
      rw [ih]
      rfl

end FetchPlan.Json.Literal
