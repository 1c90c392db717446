import FetchPlan.Json.Token
import FetchPlan.Proofs.Json.Digits
import FetchPlan.Proofs.Json.Literals

/-!
# Texts that spell tokens

A text spells some tokens when they are read off it whatever stands behind it, as long as
that does not continue a number. Spellings are put together from those of single tokens;
blanks may stand between them.
-/

namespace FetchPlan.Json.Token

/-! ## One token at a time -/

/-- The first token is read behind the blanks in front. -/
theorem ofText?_eq (s : List Char) :
    ofText? s = match s.dropWhile isBlank with
      | [] => some []
      | c :: cs => (front (c :: cs)).bind fun r => (ofText? r.2).map (r.1 :: ·) := by
  rw [ofText?]
  split
  · next h => rw [h]
  · next c cs h =>
    rw [h]
    split
    · next hfront =>
      simp only [hfront]
      rfl
    · next t rest hfront =>
      simp only [hfront]
      rfl

theorem ofText?_front {c : Char} {cs rest : List Char} {t : Token} (hc : isBlank c = false)
    (hfront : front (c :: cs) = some (t, rest)) :
    ofText? (c :: cs) = (ofText? rest).map (t :: ·) := by
  have hdrop : (c :: cs).dropWhile isBlank = c :: cs := by
    rw [List.dropWhile_cons, hc]
    rfl
  rw [ofText?_eq, hdrop]
  simp only [hfront]
  rfl

theorem ofText?_blank {c : Char} (hc : isBlank c) (cs : List Char) :
    ofText? (c :: cs) = ofText? cs := by
  rw [ofText?_eq, List.dropWhile_cons, if_pos hc, ← ofText?_eq]

/-! ## Numerals -/

/-- The text does not continue a numeral. -/
def EndsNumeral (s : List Char) : Prop :=
  ∀ c, s.head? = some c → ¬ c.isDigit ∧ c ≠ '.' ∧ c ≠ 'e' ∧ c ≠ 'E'

theorem digitRun_append {ds rest : List Char} (hne : ds ≠ []) (hds : ∀ c ∈ ds, c.isDigit)
    (hrest : ∀ c, rest.head? = some c → ¬ c.isDigit) :
    digitRun (ds ++ rest) = some (ds, rest) := by
  have htake : (ds ++ rest).takeWhile Char.isDigit = ds := by
    rw [List.takeWhile_append_of_pos hds]
    cases rest with
    | nil => simp
    | cons c rest => simp [hrest c rfl]
  have hdrop : (ds ++ rest).dropWhile Char.isDigit = rest := by
    rw [List.dropWhile_append_of_pos hds]
    cases rest with
    | nil => rfl
    | cons c rest => simp [hrest c rfl]
  unfold digitRun
  rw [htake, hdrop]
  cases ds with
  | nil => exact absurd rfl hne
  | cons d ds => rfl

theorem wholePart_digits (n : Nat) {rest : List Char} (hrest : EndsNumeral rest) :
    wholePart (Decimal.digits n ++ rest) = some (Decimal.digits n, rest) := by
  have hzero : (Decimal.digits n).head? ≠ some '0' ∨ (Decimal.digits n).length = 1 := by
    by_cases h : (Decimal.digits n).head? = some '0'
    · rw [eq_zero_of_head?_digits h]
      exact .inr rfl
    · exact .inl h
  unfold wholePart
  rw [digitRun_append (digits_ne_nil n) (fun c => isDigit_of_mem_digits)
    (fun c hc => (hrest c hc).1)]
  show ((if _ then pure () else failure : Option Unit) >>= fun _ => some _) = _
  rw [if_pos hzero]
  rfl

theorem fractionPart_none {rest : List Char} (hrest : EndsNumeral rest) :
    fractionPart rest = some (none, rest) := by
  unfold fractionPart
  split
  · exact absurd rfl (hrest '.' rfl).2.1
  · rfl

theorem exponentPart_none {rest : List Char} (hrest : EndsNumeral rest) :
    exponentPart rest = some (none, rest) := by
  unfold exponentPart
  split
  · next c rest =>
    obtain ⟨-, -, he, hE⟩ := hrest c rfl
    rw [if_neg (by simp [he, hE])]
  · rfl

theorem sign_integerText (i : Int) (rest : List Char) :
    sign (Number.integerText i ++ rest) =
      (decide (i < 0), Decimal.digits i.natAbs ++ rest) := by
  obtain ⟨d, ds, hdigits, hd⟩ := exists_digits_eq_cons i.natAbs
  unfold Number.integerText
  by_cases h : i < 0
  · simp [h, sign]
  · rw [if_neg h, List.nil_append, hdigits, List.cons_append, sign]
    · simp [h]
    · intro _ heq
      cases heq
      exact absurd hd (by decide)

theorem numeral_integerText (i : Int) {rest : List Char} (hrest : EndsNumeral rest) :
    numeral (Number.integerText i ++ rest) =
      some (⟨decide (i < 0), Decimal.digits i.natAbs, none, none⟩, rest) := by
  unfold numeral
  rw [sign_integerText]
  simp only [wholePart_digits i.natAbs hrest, fractionPart_none hrest, exponentPart_none hrest,
    Option.bind_eq_bind, Option.bind_some]
  rfl

/-- An integer in range is the number that its text stands for. -/
theorem number_integerText {i : Int} (hi : Number.inRange i) :
    (⟨decide (i < 0), Decimal.digits i.natAbs, none, none⟩ : Numeral).number =
      some (.integer i) := by
  have hvalue : (if decide (i < 0) then -((i.natAbs : Nat) : Int) else (i.natAbs : Int)) = i := by
    by_cases h : i < 0
    · simp only [h, decide_true, if_true]
      omega
    · simp only [h, decide_false]
      simp
      omega
  have hzero : ¬ (decide (i < 0) = true ∧ i.natAbs = 0) := by
    rw [decide_eq_true_eq]
    omega
  unfold Numeral.number
  simp only [digitsValue_digits]
  rw [hvalue, if_pos ⟨hi, hzero⟩]

/-- What starts with a digit or a minus sign can only be a numeral. -/
theorem front_numeral {c : Char} (hc : c = '-' ∨ c.isDigit) (cs : List Char) :
    front (c :: cs) = (numeral (c :: cs)).map fun r => (.number r.1.number, r.2) := by
  have hne : ∀ d : Char, d ≠ '-' → ¬ d.isDigit → c ≠ d := by
    rintro d hminus hdigit rfl
    exact hc.elim hminus hdigit
  rw [front]
  all_goals
    intros
    simp_all

/-! ## Spellings -/

/-- The tokens are read off the text, whatever stands behind it that does not continue a
numeral. -/
def Spells (s : List Char) (ts : List Token) : Prop :=
  ∀ rest, EndsNumeral rest → ofText? (s ++ rest) = (ofText? rest).map (ts ++ ·)

/-- In front of what does not continue a numeral, the text does not continue one either. -/
def Parts (s : List Char) : Prop := ∀ rest, EndsNumeral rest → EndsNumeral (s ++ rest)

theorem parts_nil : Parts [] := fun _ h => h

theorem parts_cons {c : Char} (hc : ¬ c.isDigit ∧ c ≠ '.' ∧ c ≠ 'e' ∧ c ≠ 'E')
    (s : List Char) : Parts (c :: s) := by
  intro rest _ c' hc'
  cases hc'
  exact hc

theorem spells_nil : Spells [] [] := by
  intro rest _
  show ofText? rest = (ofText? rest).map id
  rw [Option.map_id, id]

theorem Spells.append {s s' : List Char} {ts ts' : List Token} (h : Spells s ts)
    (h' : Spells s' ts') (hparts : Parts s') : Spells (s ++ s') (ts ++ ts') := by
  intro rest hrest
  rw [List.append_assoc, h _ (hparts rest hrest), h' rest hrest, Option.map_map]
  congr 1
  funext rest'
  exact (List.append_assoc ts ts' rest').symm

/-! ### Marks -/

/-- The tokens of one character. -/
def mark? : Char → Option Token
  | '[' => some .openArray
  | ']' => some .closeArray
  | '\x7b' => some .openObject
  | '\x7d' => some .closeObject
  | ',' => some .comma
  | ':' => some .colon
  | _ => none

/-- A mark is no blank and is a token by itself. -/
theorem ofText?_mark {c : Char} {t : Token} (h : mark? c = some t) (rest : List Char) :
    ofText? (c :: rest) = (ofText? rest).map (t :: ·) := by
  unfold mark? at h
  split at h <;> cases h <;> exact ofText?_front rfl rfl

theorem Spells.mark {s : List Char} {ts : List Token} (hs : Spells s ts) {c : Char}
    {t : Token} (h : mark? c = some t) : Spells (c :: s) (t :: ts) := by
  intro rest hrest
  rw [List.cons_append, ofText?_mark h, hs rest hrest, Option.map_map]
  rfl

theorem parts_mark {c : Char} {t : Token} (h : mark? c = some t) (s : List Char) :
    Parts (c :: s) := by
  apply parts_cons
  unfold mark? at h
  split at h <;> first | decide | cases h

/-! ### Blanks -/

theorem Spells.blanks {s : List Char} {ts : List Token} (hs : Spells s ts) {lead : List Char}
    (h : ∀ c ∈ lead, isBlank c) : Spells (lead ++ s) ts := by
  induction lead with
  | nil => exact hs
  | cons c lead ih =>
    intro rest hrest
    rw [List.cons_append, List.cons_append, ofText?_blank (h c List.mem_cons_self)]
    exact ih (fun c hc => h c (List.mem_cons_of_mem _ hc)) rest hrest

theorem parts_blanks {lead s : List Char} (h : ∀ c ∈ lead, isBlank c) (hs : Parts s) :
    Parts (lead ++ s) := by
  cases lead with
  | nil => exact hs
  | cons c lead =>
    apply parts_cons
    have hc := h c List.mem_cons_self
    simp only [isBlank, decide_eq_true_eq] at hc
    rcases hc with rfl | rfl | rfl | rfl <;> decide

/-! ### Strings and numbers -/

theorem Spells.quote {s : List Char} {ts : List Token} (hs : Spells s ts) (k : String) :
    Spells (Json.quote k ++ s) (.string (some k) :: ts) := by
  intro rest hrest
  have hfront : front (Json.quote k ++ (s ++ rest)) = some (.string (some k), s ++ rest) := by
    have happend : k.toList.flatMap Literal.escape ++ ['"'] ++ (s ++ rest) =
        k.toList.flatMap Literal.escape ++ '"' :: (s ++ rest) :=
      List.append_assoc _ _ _
    show (Literal.pieces (k.toList.flatMap Literal.escape ++ ['"'] ++ (s ++ rest))).map _ = _
    simp only [happend, Literal.pieces_text, Option.map_some, Literal.join_map_pieceOf,
      String.ofList_toList]
  rw [List.append_assoc]
  show ofText? ('"' :: _) = _
  rw [ofText?_front rfl hfront, hs rest hrest, Option.map_map]
  rfl

theorem spells_quote (s : String) : Spells (Json.quote s) [.string (some s)] := by
  have h := spells_nil.quote s
  rwa [List.append_nil] at h

theorem spells_integer {i : Int} (hi : Number.inRange i) :
    Spells (Number.integerText i) [.number (some (.integer i))] := by
  have hhead : ∃ c cs, Number.integerText i = c :: cs ∧ (c = '-' ∨ c.isDigit) := by
    obtain ⟨d, ds, hdigits, hd⟩ := exists_digits_eq_cons i.natAbs
    unfold Number.integerText
    by_cases h : i < 0
    · exact ⟨'-', Decimal.digits i.natAbs, by simp [h], .inl rfl⟩
    · exact ⟨d, ds, by simp [h, hdigits], .inr hd⟩
  obtain ⟨c, cs, htext, hc⟩ := hhead
  have hblank : isBlank c = false := by
    rw [isBlank, decide_eq_false_iff_not]
    rintro (rfl | rfl | rfl | rfl) <;> revert hc <;> decide
  intro rest hrest
  have hnumeral := numeral_integerText i hrest
  rw [htext, List.cons_append] at hnumeral ⊢
  refine ofText?_front hblank ?_
  rw [front_numeral hc, hnumeral, Option.map_some, number_integerText hi]

/-- A text of letters that is a token. -/
theorem spells_word {c : Char} {cs : List Char} {t : Token} (hc : isBlank c = false)
    (h : ∀ rest, front (c :: (cs ++ rest)) = some (t, rest)) : Spells (c :: cs) [t] :=
  fun rest _ => ofText?_front hc (h rest)

end FetchPlan.Json.Token
