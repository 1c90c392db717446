import FetchPlan.Json.Number
import FetchPlan.Json.Literal

/-!
# JSON tokens

`Token.ofText?` cuts a text into tokens, passing over blanks. A number out of range and a
string without a value are still tokens: they have a form, and only a reader that needs
their value has to refuse them.
-/

namespace FetchPlan.Json

inductive Token where
  | openArray
  | closeArray
  | openObject
  | closeObject
  | comma
  | colon
  | null
  | bool (value : Bool)
  | number (value : Option Number)
  | string (value : Option String)
deriving DecidableEq

namespace Token

/-- Blanks are space, tab, line feed and carriage return, and no other character. -/
def isBlank (c : Char) : Bool := c = ' ' ∨ c = '\t' ∨ c = '\n' ∨ c = '\r'

/-! ## Numbers -/

/-- The leading digits of a text, at least one, and the text after them. -/
def digitRun (s : List Char) : Option (List Char × List Char) :=
  match s.takeWhile Char.isDigit with
  | [] => none
  | d :: ds => some (d :: ds, s.dropWhile Char.isDigit)

/-- The digits before the point: a zero stands alone. -/
def wholePart (s : List Char) : Option (List Char × List Char) := do
  let (ds, rest) ← digitRun s
  guard (ds.head? ≠ some '0' ∨ ds.length = 1)
  return (ds, rest)

/-- The digits after a point, if there is a point. -/
def fractionPart (s : List Char) : Option (Option (List Char) × List Char) :=
  match s with
  | '.' :: rest => (digitRun rest).map fun (ds, rest) => (some ds, rest)
  | _ => some (none, s)

/-- The sign of an exponent, which may be left out. -/
def exponentSign (s : List Char) : Bool × List Char :=
  match s with
  | '+' :: rest => (false, rest)
  | '-' :: rest => (true, rest)
  | _ => (false, s)

/-- The exponent, if there is one. -/
def exponentPart (s : List Char) : Option (Option (Bool × List Char) × List Char) :=
  match s with
  | c :: rest =>
    if c = 'e' ∨ c = 'E' then
      let (negative, rest) := exponentSign rest
      (digitRun rest).map fun (ds, rest) => (some (negative, ds), rest)
    else some (none, s)
  | [] => some (none, s)

def sign (s : List Char) : Bool × List Char :=
  match s with
  | '-' :: rest => (true, rest)
  | _ => (false, s)

/-- The numeral at the front of a text. -/
def numeral (s : List Char) : Option (Numeral × List Char) := do
  let (negative, rest) := sign s
  let (whole, rest) ← wholePart rest
  let (fraction, rest) ← fractionPart rest
  let (exponent, rest) ← exponentPart rest
  return (⟨negative, whole, fraction, exponent⟩, rest)

/-! ## Tokens -/

/-- The token at the front of a text that does not start with a blank. -/
def front (s : List Char) : Option (Token × List Char) :=
  match s with
  | '[' :: rest => some (.openArray, rest)
  | ']' :: rest => some (.closeArray, rest)
  | '\x7b' :: rest => some (.openObject, rest)
  | '\x7d' :: rest => some (.closeObject, rest)
  | ',' :: rest => some (.comma, rest)
  | ':' :: rest => some (.colon, rest)
  | 'n' :: 'u' :: 'l' :: 'l' :: rest => some (.null, rest)
  | 't' :: 'r' :: 'u' :: 'e' :: rest => some (.bool true, rest)
  | 'f' :: 'a' :: 'l' :: 's' :: 'e' :: rest => some (.bool false, rest)
  | '"' :: rest =>
    (Literal.pieces rest).map fun (ps, rest) =>
      (.string ((Literal.join ps).map String.ofList), rest)
  | _ => (numeral s).map fun (n, rest) => (.number n.number, rest)

/-! ## Reading consumes the token -/

theorem length_dropWhile_le (p : Char → Bool) (s : List Char) :
    (s.dropWhile p).length ≤ s.length :=
  (List.dropWhile_suffix p).length_le

theorem digitRun_shorter {s ds rest : List Char} (h : digitRun s = some (ds, rest)) :
    rest.length < s.length := by
  unfold digitRun at h
  split at h
  · simp at h
  · next d ds' hd =>
    simp only [Option.some.injEq, Prod.mk.injEq] at h
    obtain ⟨_, rfl⟩ := h
    have parts : s.takeWhile Char.isDigit ++ s.dropWhile Char.isDigit = s :=
      List.takeWhile_append_dropWhile
    have parts := congrArg List.length parts
    simp only [List.length_append, hd, List.length_cons] at parts
    omega

theorem wholePart_shorter {s ds rest : List Char} (h : wholePart s = some (ds, rest)) :
    rest.length < s.length := by
  unfold wholePart at h
  obtain ⟨⟨_, _⟩, hrun, h⟩ := Option.bind_eq_some_iff.1 h
  obtain ⟨_, _, h⟩ := Option.bind_eq_some_iff.1 h
  simp only [pure, Option.some.injEq, Prod.mk.injEq] at h
  obtain ⟨_, rfl⟩ := h
  exact digitRun_shorter hrun

theorem fractionPart_le {s rest : List Char} {f : Option (List Char)}
    (h : fractionPart s = some (f, rest)) : rest.length ≤ s.length := by
  unfold fractionPart at h
  split at h
  · next r =>
    simp only [Option.map_eq_some_iff] at h
    obtain ⟨⟨_, _⟩, hrun, h⟩ := h
    simp only [Prod.mk.injEq] at h
    obtain ⟨_, rfl⟩ := h
    have := digitRun_shorter hrun
    simp only [List.length_cons]
    omega
  · simp only [Option.some.injEq, Prod.mk.injEq] at h
    obtain ⟨_, rfl⟩ := h
    exact Nat.le_refl _

theorem exponentSign_le (s : List Char) : (exponentSign s).2.length ≤ s.length := by
  unfold exponentSign
  split <;> simp

theorem exponentPart_le {s rest : List Char} {e : Option (Bool × List Char)}
    (h : exponentPart s = some (e, rest)) : rest.length ≤ s.length := by
  unfold exponentPart at h
  split at h
  · next c r =>
    split at h
    · simp only [Option.map_eq_some_iff] at h
      obtain ⟨⟨_, _⟩, hrun, h⟩ := h
      simp only [Prod.mk.injEq] at h
      obtain ⟨_, rfl⟩ := h
      have := digitRun_shorter hrun
      have := exponentSign_le r
      simp only [List.length_cons]
      omega
    · simp only [Option.some.injEq, Prod.mk.injEq] at h
      obtain ⟨_, rfl⟩ := h
      exact Nat.le_refl _
  · simp only [Option.some.injEq, Prod.mk.injEq] at h
    obtain ⟨_, rfl⟩ := h
    exact Nat.le_refl _

theorem sign_le (s : List Char) : (sign s).2.length ≤ s.length := by
  unfold sign
  split <;> simp

theorem numeral_shorter {s rest : List Char} {n : Numeral} (h : numeral s = some (n, rest)) :
    rest.length < s.length := by
  simp only [numeral, bind, Option.bind_eq_some_iff] at h
  obtain ⟨⟨_, _⟩, hw, ⟨_, _⟩, hf, ⟨_, _⟩, he, h⟩ := h
  simp only [pure, Option.some.injEq, Prod.mk.injEq] at h
  obtain ⟨_, rfl⟩ := h
  have := sign_le s
  have := wholePart_shorter hw
  have hf := fractionPart_le hf
  have he := exponentPart_le he
  dsimp only at hf he
  omega

theorem front_shorter {s rest : List Char} {t : Token} (h : front s = some (t, rest)) :
    rest.length < s.length := by
  unfold front at h
  split at h
  case h_10 r =>
    simp only [Option.map_eq_some_iff] at h
    obtain ⟨⟨_, _⟩, hp, h⟩ := h
    simp only [Prod.mk.injEq] at h
    obtain ⟨_, rfl⟩ := h
    have := Literal.pieces_shorter hp
    simp only [List.length_cons]
    omega
  case h_11 =>
    simp only [Option.map_eq_some_iff] at h
    obtain ⟨⟨_, _⟩, hn, h⟩ := h
    simp only [Prod.mk.injEq] at h
    obtain ⟨_, rfl⟩ := h
    exact numeral_shorter hn
  all_goals
    simp only [Option.some.injEq, Prod.mk.injEq] at h
    obtain ⟨_, rfl⟩ := h
    simp only [List.length_cons]
    omega

/-- The tokens of a text, if it is made of tokens and blanks. -/
def ofText? (s : List Char) : Option (List Token) :=
  match _h : s.dropWhile isBlank with
  | [] => some []
  | c :: cs =>
    match _hf : front (c :: cs) with
    | none => none
    | some (t, rest) => (ofText? rest).map (t :: ·)
termination_by s.length
decreasing_by
  have := front_shorter _hf
  have := length_dropWhile_le isBlank s
  have := congrArg List.length _h
  omega

end Token

end FetchPlan.Json
