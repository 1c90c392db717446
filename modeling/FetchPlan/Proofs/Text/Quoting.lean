import FetchPlan.Json.Literal
import FetchPlan.Text.Quoted
import FetchPlan.Text.Split
import Mathlib.Logic.Function.Basic

/-!
# Quoted texts are read back

A quoted text is read one character at a time: a backslash starts an escape, with a letter
or with a number in braces, and any other character stands for itself. Each character is
read back from what it is shown as, whatever follows it; so different texts are quoted
differently, also when they look like escapes. What would leave the line is never shown as
it is.
-/

namespace FetchPlan.Text

/-! ## Hexadecimal digits -/

/-- Facts on the digits of a number go by the digits: from one digit to one digit more. -/
theorem hexDigits_induction {motive : Nat → List Char → Prop}
    (digit : ∀ d < 16, motive d [Nat.digitChar d])
    (more : ∀ n ds, motive n ds → ∀ d < 16, motive (16 * n + d) (ds ++ [Nat.digitChar d]))
    (n : Nat) : motive n (hexDigits n) := by
  induction n using Nat.strongRecOn with
  | ind n ih =>
    unfold hexDigits at ih ⊢
    rw [Nat.toDigits_eq_if (by decide)]
    split
    · next h => exact digit n h
    · next h =>
      have hmore := more (n / 16) _ (ih (n / 16) (by omega)) (n % 16) (by omega)
      rwa [Nat.div_add_mod] at hmore

theorem mem_hexDigits {n : Nat} : ∀ c ∈ hexDigits n, ∃ d < 16, c = Nat.digitChar d := by
  refine hexDigits_induction (motive := fun _ ds => ∀ c ∈ ds, ∃ d < 16, c = Nat.digitChar d)
    ?_ ?_ n
  · intro d hd c hc
    exact ⟨d, hd, List.mem_singleton.1 hc⟩
  · intro _ ds ih d hd c hc
    rcases List.mem_append.1 hc with hc | hc
    · exact ih c hc
    · exact ⟨d, hd, List.mem_singleton.1 hc⟩

/-- The number that hexadecimal digits spell. -/
def hexNumber? (ds : List Char) : Option Nat :=
  ds.foldlM (fun n d => (Json.Literal.hexValue d).map (16 * n + ·)) 0

theorem hexValue_digitChar : ∀ d < 16, Json.Literal.hexValue (Nat.digitChar d) = some d := by
  decide

theorem hexNumber?_hexDigits (n : Nat) : hexNumber? (hexDigits n) = some n := by
  refine hexDigits_induction (motive := fun n ds => hexNumber? ds = some n) ?_ ?_ n
  · intro d hd
    simp [hexNumber?, hexValue_digitChar d hd]
  · intro n ds ih d hd
    unfold hexNumber? at ih ⊢
    rw [List.foldlM_append, ih]
    simp [hexValue_digitChar d hd]

/-! ## Reading one character -/

/-- The character that a letter after a backslash stands for. -/
def unescape? (e : Char) : Option Char :=
  match e with
  | '0' => some '\x00'
  | 't' => some '\t'
  | 'n' => some '\n'
  | 'r' => some '\r'
  | '"' => some '"'
  | '\\' => some '\\'
  | _ => none

/-- The first character that is shown, and what is shown after it. -/
def readChar? : List Char → Option (Char × List Char)
  | '\\' :: 'u' :: '\x7b' :: rest =>
    match cut '\x7d' rest with
    | (ds, some rest) => (hexNumber? ds).map fun n => (Char.ofNat n, rest)
    | (_, none) => none
  | '\\' :: e :: rest => (unescape? e).map (·, rest)
  | c :: rest => some (c, rest)
  | [] => none

/-- How a character is shown: with a backslash and a letter, by number, or as it is. -/
inductive Shown (c : Char) : List Char → Prop
  | letter {e : Char} (named : unescape? e = some c) : Shown c ['\\', e]
  | number : Shown c (['\\', 'u', '\x7b'] ++ hexDigits c.toNat ++ ['\x7d'])
  | plain (slash : c ≠ '\\') (visible : isConcealed c = false) : Shown c [c]

theorem shown_quoteChar (c : Char) : Shown c (quoteChar c) := by
  unfold quoteChar
  -- the six characters that have a letter
  iterate 6
    split
    · next h =>
      subst h
      exact .letter rfl
  split
  · exact .number
  · next hslash hvisible => exact .plain hslash (Bool.eq_false_iff.2 hvisible)

theorem readChar?_number (n : Nat) (rest : List Char) :
    readChar? (['\\', 'u', '\x7b'] ++ hexDigits n ++ '\x7d' :: rest) =
      some (Char.ofNat n, rest) := by
  have hbrace : '\x7d' ∉ hexDigits n := by
    intro hmem
    obtain ⟨d, hd, heq⟩ := mem_hexDigits _ hmem
    revert d
    decide
  have hcut : cut '\x7d' (hexDigits n ++ '\x7d' :: rest) = (hexDigits n, some rest) :=
    cut_uncut hbrace (some rest)
  show (match cut '\x7d' (hexDigits n ++ '\x7d' :: rest) with
    | (ds, some rest) => (hexNumber? ds).map fun n => (Char.ofNat n, rest)
    | (_, none) => none) = _
  rw [hcut]
  show (hexNumber? (hexDigits n)).map _ = _
  rw [hexNumber?_hexDigits]
  rfl

/-- A character is read back, whatever follows. -/
theorem readChar?_quoteChar (c : Char) (rest : List Char) :
    readChar? (quoteChar c ++ rest) = some (c, rest) := by
  have hshown := shown_quoteChar c
  generalize quoteChar c = text at hshown
  cases hshown with
  | @letter e named =>
    have hu : e ≠ 'u' := by
      rintro rfl
      cases named
    rw [List.cons_append, List.cons_append, List.nil_append, readChar?]
    · rw [named]
      rfl
    · intros
      simp_all
  | number =>
    rw [List.append_assoc, List.singleton_append, readChar?_number, Char.ofNat_toNat]
  | plain slash visible =>
    rw [List.singleton_append, readChar?]
    all_goals
      intros
      simp_all

/-! ## Reading a text -/

theorem flatMap_quoteChar_injective : Function.Injective (List.flatMap quoteChar) := by
  have hread : ∀ c s, readChar? (List.flatMap quoteChar (c :: s)) =
      some (c, List.flatMap quoteChar s) := fun c s => readChar?_quoteChar c _
  intro s
  induction s with
  | nil =>
    intro t h
    cases t with
    | nil => rfl
    | cons d t => cases (congrArg readChar? h).trans (hread d t)
  | cons c s ih =>
    intro t h
    have hfirst := (hread c s).symm.trans (congrArg readChar? h)
    cases t with
    | nil => cases hfirst
    | cons d t =>
      rw [hread, Option.some.injEq, Prod.mk.injEq] at hfirst
      rw [hfirst.1, ih hfirst.2]

/-- **Quoting.** Different texts are quoted differently. -/
theorem quoted_injective : Function.Injective quoted := by
  intro s t h
  have hbody : '"' :: s.toList.flatMap quoteChar ++ ['"'] =
      '"' :: t.toList.flatMap quoteChar ++ ['"'] := String.ofList_injective h
  rw [List.append_cancel_right_eq, List.cons.injEq] at hbody
  exact String.toList_injective (flatMap_quoteChar_injective hbody.2)

/-! ## Staying on the line -/

/-- Controls, and what separates lines and paragraphs. -/
def lineBreaks : CharClass := [(0x0, 0x1f), (0x7f, 0x9f), (0x2028, 0x2029)]

/-- A text without any control or line break. -/
def OnOneLine (s : String) : Prop := ∀ c ∈ s.toList, lineBreaks.covers c = false

instance (s : String) : Decidable (OnOneLine s) :=
  List.decidableBAll (lineBreaks.covers · = false) s.toList

theorem onOneLine_append {s t : String} :
    OnOneLine (s ++ t) ↔ OnOneLine s ∧ OnOneLine t := by
  unfold OnOneLine
  rw [String.toList_append]
  exact List.forall_mem_append

namespace CharClass

variable {k : CharClass} {range : Nat × Nat} {c : Char}

@[simp] theorem covers_nil : covers [] c = true ↔ False := by simp [covers]

@[simp] theorem covers_cons : covers (range :: k) c = true ↔
    (range.1 ≤ c.toNat ∧ c.toNat ≤ range.2) ∨ k.covers c = true := by
  simp [covers]

theorem covers_of_mem (h : range ∈ k) (hlow : range.1 ≤ c.toNat) (hhigh : c.toNat ≤ range.2) :
    k.covers c = true :=
  List.any_eq_true.2 ⟨range, h, decide_eq_true ⟨hlow, hhigh⟩⟩

end CharClass

theorem covers_lineBreaks_of_printable {c : Char} (hlow : 0x20 ≤ c.toNat)
    (hhigh : c.toNat < 0x7f) : lineBreaks.covers c = false := by
  rw [← Bool.not_eq_true]
  simp only [lineBreaks, CharClass.covers_cons, CharClass.covers_nil, or_false]
  omega

/-- What breaks a line is concealed. -/
theorem isConcealed_of_lineBreak {c : Char} (h : lineBreaks.covers c = true) :
    isConcealed c = true := by
  have hcontrol : ((0x0, 0x1f) : Nat × Nat) ∈ Concealed.all := by decide +kernel
  have hdelete : ((0x7f, 0xa0) : Nat × Nat) ∈ Concealed.all := by decide +kernel
  have hseparator : ((0x2028, 0x202f) : Nat × Nat) ∈ Concealed.all := by decide +kernel
  simp only [lineBreaks, CharClass.covers_cons, CharClass.covers_nil, or_false] at h
  rcases h with h | h | h
  · exact CharClass.covers_of_mem hcontrol h.1 h.2
  · exact CharClass.covers_of_mem hdelete h.1 (Nat.le_succ_of_le h.2)
  · exact CharClass.covers_of_mem hseparator h.1 (by simp only; omega)

/-- No letter of an escape breaks the line. -/
theorem covers_lineBreaks_of_unescape? {e c : Char} (h : unescape? e = some c) :
    lineBreaks.covers e = false := by
  unfold unescape? at h
  split at h
  case h_7 => cases h
  all_goals decide

theorem covers_lineBreaks_hexDigits {n : Nat} {c : Char} (h : c ∈ hexDigits n) :
    lineBreaks.covers c = false := by
  have hdigits : ∀ d < 16, lineBreaks.covers (Nat.digitChar d) = false := by decide
  obtain ⟨d, hd, rfl⟩ := mem_hexDigits c h
  exact hdigits d hd

theorem covers_lineBreaks_quoteChar {c d : Char} (h : d ∈ quoteChar c) :
    lineBreaks.covers d = false := by
  have hshown := shown_quoteChar c
  generalize quoteChar c = text at hshown h
  cases hshown with
  | @letter e named =>
    have hletter := covers_lineBreaks_of_unescape? named
    rcases List.mem_cons.1 h with rfl | h
    · decide
    · rwa [List.mem_singleton.1 h]
  | number =>
    rcases List.mem_append.1 h with h | h
    · rcases List.mem_append.1 h with h | h
      · simp only [List.mem_cons, List.not_mem_nil, or_false] at h
        rcases h with rfl | rfl | rfl <;> decide
      · exact covers_lineBreaks_hexDigits h
    · rw [List.mem_singleton.1 h]
      decide
  | plain slash visible =>
    rw [List.mem_singleton.1 h]
    by_contra hbreak
    rw [isConcealed_of_lineBreak (by simpa using hbreak)] at visible
    cases visible

/-- A quoted text stays on its line, whatever it holds. -/
theorem onOneLine_quoted (s : String) : OnOneLine (quoted s) := by
  intro d hd
  unfold quoted at hd
  rw [String.toList_ofList] at hd
  rcases List.mem_append.1 hd with hd | hd
  · rcases List.mem_cons.1 hd with rfl | hd
    · decide
    · obtain ⟨c, -, hc⟩ := List.mem_flatMap.1 hd
      exact covers_lineBreaks_quoteChar hc
  · rw [List.mem_singleton.1 hd]
    decide

end FetchPlan.Text
