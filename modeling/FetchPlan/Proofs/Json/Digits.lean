import FetchPlan.Json.Number

/-!
# Decimal digits

The digits of a natural number spell it, are digits, and start with a zero only when the
number is zero. Any other number, too, is written with digits and a few marks alone.
-/

namespace FetchPlan.Json

open Decimal (digits)

theorem digitsValue_digits (n : Nat) : digitsValue (digits n) = n := by
  unfold digitsValue digits
  rw [← Nat.ofDigitChars_eq_foldl]
  exact Nat.ofDigitChars_ten_toDigits

theorem digitsValue_append_singleton (ds : List Char) (d : Char) :
    digitsValue (ds ++ [d]) = 10 * digitsValue ds + (d.toNat - '0'.toNat) := by
  unfold digitsValue
  rw [List.foldl_append]
  rfl

/-- Zeros in front do not count. -/
theorem digitsValue_zeros_append (count : Nat) (ds : List Char) :
    digitsValue (Decimal.zeros count ++ ds) = digitsValue ds := by
  induction count with
  | zero => rfl
  | succ count ih => exact ih

theorem isDigit_of_mem_digits {n : Nat} {c : Char} (h : c ∈ digits n) : c.isDigit :=
  Nat.isDigit_of_mem_toDigits (by decide) (by decide) h

theorem digits_ne_nil (n : Nat) : digits n ≠ [] :=
  Nat.toDigits_ne_nil

theorem exists_digits_eq_cons (n : Nat) : ∃ d ds, digits n = d :: ds ∧ d.isDigit := by
  cases h : digits n with
  | nil => exact absurd h (digits_ne_nil n)
  | cons d ds => exact ⟨d, ds, rfl, isDigit_of_mem_digits (h ▸ List.mem_cons_self)⟩

/-- Only zero is written with a zero in front. -/
theorem eq_zero_of_head?_digits {n : Nat} (h : (digits n).head? = some '0') : n = 0 := by
  induction n using Nat.strongRecOn with
  | ind n ih =>
    unfold digits at h ih
    rw [Nat.toDigits_eq_if (by decide)] at h
    split at h
    · next hlt =>
      have hzero : ∀ d < 10, [Nat.digitChar d].head? = some '0' → d = 0 := by decide
      exact hzero n hlt h
    · next hge =>
      -- the front digit is that of the tenth part, which is not zero
      have htenth : (Nat.toDigits 10 (n / 10)).head? = some '0' := by
        cases hd : Nat.toDigits 10 (n / 10) with
        | nil => exact absurd hd Nat.toDigits_ne_nil
        | cons d ds =>
          rw [hd] at h
          exact h
      have hzero := ih (n / 10) (by omega) htenth
      omega

/-! ## Written numbers -/

/-- Digits, signs, the point and the mark of an exponent. -/
def isNumeric (c : Char) : Bool := c.isDigit || decide (c ∈ ['-', '+', '.', 'e'])

/-- The characters are those that numbers are written with. -/
def Numeric (s : List Char) : Prop := ∀ c ∈ s, isNumeric c = true

instance (s : List Char) : Decidable (Numeric s) :=
  List.decidableBAll (isNumeric · = true) s

namespace Numeric

variable {s t : List Char}

theorem append (hs : Numeric s) (ht : Numeric t) : Numeric (s ++ t) :=
  List.forall_mem_append.2 ⟨hs, ht⟩

theorem cons {c : Char} (hc : isNumeric c) (hs : Numeric s) : Numeric (c :: s) :=
  List.forall_mem_cons.2 ⟨hc, hs⟩

theorem of_subset (hs : Numeric s) (h : t ⊆ s) : Numeric t := fun c hc => hs c (h hc)

end Numeric

theorem numeric_digits (n : Nat) : Numeric (digits n) := by
  intro c hc
  rw [isNumeric, isDigit_of_mem_digits hc]
  rfl

theorem numeric_zeros (count : Nat) : Numeric (Decimal.zeros count) := by
  intro c hc
  rw [List.eq_of_mem_replicate hc]
  rfl

theorem numeric_positional {ds : List Char} (hds : Numeric ds) (e : Int) :
    Numeric (Decimal.positional ds e) := by
  unfold Decimal.positional
  split
  · exact (hds.append (numeric_zeros _)).append (by decide)
  · dsimp only
    split
    · have hfront := fun k => hds.of_subset (List.take_subset k ds)
      have hplaces := fun k => hds.of_subset (List.drop_subset k ds)
      exact (hfront _).append ((hplaces _).cons (by decide))
    · exact (((numeric_zeros _).cons (by decide)).cons (by decide)).append hds

theorem numeric_exponentText (e : Int) : Numeric (Decimal.exponentText e) := by
  unfold Decimal.exponentText
  split
  · exact (numeric_digits _).cons (by decide)
  · exact (numeric_digits _).cons (by decide)

theorem numeric_withExponent {ds : List Char} (hds : Numeric ds) (e : Int) :
    Numeric (Decimal.withExponent ds e) := by
  have hexponent : Numeric ('e' :: Decimal.exponentText e) :=
    (numeric_exponentText e).cons (by decide)
  unfold Decimal.withExponent
  split
  · exact hds
  · exact hds.append hexponent
  · next d rest _ =>
    obtain ⟨hd, hrest⟩ := List.forall_mem_cons.1 hds
    exact ((Numeric.append hrest hexponent).cons (by decide)).cons hd

theorem numeric_integerText (i : Int) : Numeric (Number.integerText i) := by
  unfold Number.integerText
  split
  · exact (numeric_digits _).cons (by decide)
  · exact numeric_digits _

theorem numeric_floatText (x : Decimal.Binary64) : Numeric (Number.floatText x) := by
  have hlayout : Numeric (Number.layout.text x.shortest) := by
    unfold Decimal.Layout.text
    dsimp only
    split
    · exact numeric_positional (numeric_digits _) _
    · exact numeric_withExponent (numeric_digits _) _
  unfold Number.floatText
  split
  · exact hlayout.cons (by decide)
  · exact hlayout

/-- Every number is written with numeric characters alone. -/
theorem numeric_text (n : Number) : Numeric n.text := by
  cases n with
  | integer i => exact numeric_integerText i
  | float x => exact numeric_floatText x

end FetchPlan.Json
