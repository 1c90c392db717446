import FetchPlan.Proofs.Json.WellFormed
import Mathlib.Algebra.Order.Field.Power
import Mathlib.Data.Rat.Cast.Order
import Mathlib.Tactic.FieldSimp
import Mathlib.Tactic.Positivity

/-!
# Rounding gives well-formed numbers

Scaled by the exponent that `Binary64.nearest` chooses, a fraction has 53 binary digits
before the point, or fewer when the exponent is the least one. So the rounded number is in
the one form in which binary64 numbers are kept.
-/

namespace FetchPlan.Decimal

/-! ## Scaling -/

theorem snd_scaleBinary_pos (n : Nat) {d : Nat} (hd : 0 < d) (e : Int) :
    0 < (scaleBinary n d e).2 := by
  unfold scaleBinary
  split
  · exact Nat.mul_pos hd (Nat.two_pow_pos _)
  · exact hd

/-- Scaling divides by the power of two. -/
theorem ratio_scaleBinary (n d : Nat) (e : Int) :
    ((scaleBinary n d e).1 : ℚ) / (scaleBinary n d e).2 = (n : ℚ) / d / 2 ^ e := by
  unfold scaleBinary
  split
  · next h =>
    have hpow : ((2 : ℚ) ^ e.toNat) = 2 ^ e := by
      rw [← zpow_natCast, Int.toNat_of_nonneg h]
    show (n : ℚ) / ((d * 2 ^ e.toNat : Nat) : ℚ) = _
    rw [Nat.cast_mul, Nat.cast_pow, Nat.cast_ofNat, hpow, div_div]
  · next h =>
    have hpow : ((2 : ℚ) ^ (-e).toNat) = (2 ^ e)⁻¹ := by
      rw [← zpow_natCast, Int.toNat_of_nonneg (by omega), zpow_neg]
    show ((n * 2 ^ (-e).toNat : Nat) : ℚ) / d = _
    rw [Nat.cast_mul, Nat.cast_pow, Nat.cast_ofNat, hpow, mul_div_right_comm]
    rfl

variable {n d : Nat}

theorem le_scaleBinary_iff (hd : 0 < d) {e : Int} :
    (scaleBinary n d e).2 ≤ (scaleBinary n d e).1 ↔ (2 : ℚ) ^ e ≤ (n : ℚ) / d := by
  have hpos : (0 : ℚ) < (scaleBinary n d e).2 := by
    exact_mod_cast snd_scaleBinary_pos n hd e
  have hpow : (0 : ℚ) < 2 ^ e := by positivity
  rw [← Nat.cast_le (α := ℚ), ← one_le_div hpos, ratio_scaleBinary, one_le_div hpow]

/-! ## The binary logarithm -/

theorem log2_bounds {n : Nat} (hn : 0 < n) :
    (2 : ℚ) ^ (n.log2 : Int) ≤ n ∧ (n : ℚ) < 2 ^ ((n.log2 : Int) + 1) := by
  have hlow := Nat.log2_self_le (Nat.ne_of_gt hn)
  have hhigh := Nat.lt_log2_self (n := n)
  constructor
  · rw [zpow_natCast]
    exact_mod_cast hlow
  · rw [← Nat.cast_succ, zpow_natCast]
    exact_mod_cast hhigh

/-- The binary logarithm of a fraction, rounded down. -/
theorem floorLog2_bounds (hn : 0 < n) (hd : 0 < d) :
    (2 : ℚ) ^ floorLog2 n d ≤ (n : ℚ) / d ∧ (n : ℚ) / d < 2 ^ (floorLog2 n d + 1) := by
  obtain ⟨hn₁, hn₂⟩ := log2_bounds hn
  obtain ⟨hd₁, hd₂⟩ := log2_bounds hd
  have hdpos : (0 : ℚ) < d := by exact_mod_cast hd
  set a : Int := (n.log2 : Int)
  set b : Int := (d.log2 : Int)
  have hlow : (2 : ℚ) ^ (a - b - 1) ≤ (n : ℚ) / d := by
    rw [le_div_iff₀ hdpos]
    calc (2 : ℚ) ^ (a - b - 1) * d ≤ 2 ^ (a - b - 1) * 2 ^ (b + 1) := by gcongr
      _ = 2 ^ a := by
        rw [← zpow_add₀ two_ne_zero]
        congr 1
        omega
      _ ≤ n := hn₁
  have hhigh : (n : ℚ) / d < 2 ^ (a - b + 1) := by
    rw [div_lt_iff₀ hdpos]
    calc (n : ℚ) < 2 ^ (a + 1) := hn₂
      _ = 2 ^ (a - b + 1) * 2 ^ b := by
        rw [← zpow_add₀ two_ne_zero]
        congr 1
        omega
      _ ≤ 2 ^ (a - b + 1) * d := by gcongr
  -- the first guess is exact or one too great, and the comparison tells which
  have hfloor : floorLog2 n d =
      if (scaleBinary n d (a - b)).2 ≤ (scaleBinary n d (a - b)).1 then a - b else a - b - 1 :=
    rfl
  rw [hfloor]
  split
  · next h => exact ⟨(le_scaleBinary_iff hd).1 h, hhigh⟩
  · next h =>
    refine ⟨hlow, ?_⟩
    rw [le_scaleBinary_iff hd, not_le] at h
    rwa [sub_add_cancel]

/-! ## Rounding -/

theorem roundHalfEven_bounds (n d : Nat) :
    n / d ≤ roundHalfEven n d ∧ roundHalfEven n d ≤ n / d + 1 := by
  unfold roundHalfEven
  dsimp only
  split
  · omega
  · split
    · omega
    · omega

namespace Binary64

theorem wellFormed_zero (negative : Bool) : (zero negative).WellFormed where
  significand_lt := by
    show 0 < 2 ^ 53
    omega
  leastExponent_le := Int.le_refl _
  le_greatestExponent := by
    show (-1074 : Int) ≤ 971
    omega
  full := .inr rfl

/-- The exponent at which a fraction is rounded. -/
def roundingExponent (n d : Nat) : Int :=
  max (floorLog2 n d - (precision - 1 : Nat)) leastExponent

/-- The significand before the carry. -/
def rounded (n d : Nat) : Nat :=
  roundHalfEven (scaleBinary n d (roundingExponent n d)).1
    (scaleBinary n d (roundingExponent n d)).2

theorem rounded_le (hn : 0 < n) (hd : 0 < d) : rounded n d ≤ 2 ^ 53 := by
  have hscale := snd_scaleBinary_pos n hd (roundingExponent n d)
  have hratio := ratio_scaleBinary n d (roundingExponent n d)
  have hround := (roundHalfEven_bounds (scaleBinary n d (roundingExponent n d)).1
    (scaleBinary n d (roundingExponent n d)).2).2
  have he : floorLog2 n d + 1 ≤ 53 + roundingExponent n d := by
    rw [roundingExponent, precision]
    omega
  set s := scaleBinary n d (roundingExponent n d)
  have hbound : (s.1 : ℚ) / s.2 < 2 ^ 53 := by
    rw [hratio, div_lt_iff₀ (by positivity)]
    calc (n : ℚ) / d < 2 ^ (floorLog2 n d + 1) := (floorLog2_bounds hn hd).2
      _ ≤ 2 ^ (53 + roundingExponent n d) := zpow_le_zpow_right₀ (by norm_num) he
      _ = 2 ^ 53 * 2 ^ roundingExponent n d := by
        rw [zpow_add₀ two_ne_zero]
        rfl
  rw [div_lt_iff₀ (by exact_mod_cast hscale)] at hbound
  have hlt : s.1 / s.2 < 2 ^ 53 := (Nat.div_lt_iff_lt_mul hscale).2 (by exact_mod_cast hbound)
  exact Nat.le_trans hround hlt

/-- All digits are used unless the exponent is the least one. -/
theorem le_rounded (hn : 0 < n) (hd : 0 < d) (he : roundingExponent n d ≠ leastExponent) :
    2 ^ 52 ≤ rounded n d := by
  have hscale := snd_scaleBinary_pos n hd (roundingExponent n d)
  have hratio := ratio_scaleBinary n d (roundingExponent n d)
  have hround := (roundHalfEven_bounds (scaleBinary n d (roundingExponent n d)).1
    (scaleBinary n d (roundingExponent n d)).2).1
  have he : 52 + roundingExponent n d = floorLog2 n d := by
    rw [roundingExponent, precision] at he ⊢
    omega
  set s := scaleBinary n d (roundingExponent n d)
  have hbound : (2 : ℚ) ^ 52 ≤ (s.1 : ℚ) / s.2 := by
    rw [hratio, le_div_iff₀ (by positivity)]
    calc (2 : ℚ) ^ 52 * 2 ^ roundingExponent n d = 2 ^ (52 + roundingExponent n d) := by
          rw [zpow_add₀ two_ne_zero]
          rfl
      _ = 2 ^ floorLog2 n d := by rw [he]
      _ ≤ (n : ℚ) / d := (floorLog2_bounds hn hd).1
  rw [le_div_iff₀ (by exact_mod_cast hscale)] at hbound
  have hle : 2 ^ 52 ≤ s.1 / s.2 := (Nat.le_div_iff_mul_le hscale).2 (by exact_mod_cast hbound)
  exact Nat.le_trans hle hround

/-- The number with this significand and exponent, if the exponent is not too great. -/
def ofRounded (negative : Bool) (p : Nat × Int) : Option Binary64 :=
  if p.1 = 0 then some (zero negative)
  else if greatestExponent < p.2 then none
  else some ⟨negative, p.1, p.2⟩

theorem ofRounded_eq_some {negative : Bool} {p : Nat × Int} {x : Binary64}
    (h : ofRounded negative p = some x) :
    x = zero negative ∨ p.2 ≤ greatestExponent ∧ x = ⟨negative, p.1, p.2⟩ := by
  unfold ofRounded at h
  split at h
  · exact .inl (Option.some.inj h).symm
  · split at h
    · cases h
    · next hgreatest => exact .inr ⟨Int.not_lt.1 hgreatest, (Option.some.inj h).symm⟩

/-- Rounding may carry into one digit more, which is then moved to the exponent. -/
theorem nearest_eq (negative : Bool) (n d : Nat) :
    nearest negative n d = ofRounded negative
      (if rounded n d = 2 ^ 53 then (2 ^ 52, roundingExponent n d + 1)
      else (rounded n d, roundingExponent n d)) := by
  unfold nearest
  rfl

theorem wellFormed_nearest {negative : Bool} {x : Binary64} (hn : 0 < n) (hd : 0 < d)
    (h : nearest negative n d = some x) : x.WellFormed := by
  have hle := rounded_le hn hd
  have hleast : leastExponent ≤ roundingExponent n d := Int.le_max_right ..
  rw [nearest_eq] at h
  rcases ofRounded_eq_some h with rfl | ⟨hgreatest, rfl⟩
  · exact wellFormed_zero negative
  split at hgreatest
  · next hcarry =>
    rw [if_pos hcarry]
    refine ⟨?_, ?_, hgreatest, .inl (Nat.le_refl _)⟩
    · show 2 ^ 52 < 2 ^ 53
      omega
    · show leastExponent ≤ roundingExponent n d + 1
      omega
  · next hcarry =>
    rw [if_neg hcarry]
    refine ⟨Nat.lt_of_le_of_ne hle hcarry, hleast, hgreatest, ?_⟩
    by_cases he : roundingExponent n d = leastExponent
    · exact .inr he
    · exact .inl (le_rounded hn hd he)

/-- A number read in decimal notation is well-formed. -/
theorem wellFormed_ofDecimal {negative : Bool} {coefficient : Nat} {exponent : Int}
    {x : Binary64} (h : ofDecimal negative coefficient exponent = some x) : x.WellFormed := by
  unfold ofDecimal at h
  dsimp only at h
  split at h
  · cases h
    exact wellFormed_zero negative
  next hcoefficient =>
  have hpos : 0 < coefficient := Nat.pos_of_ne_zero hcoefficient
  split at h
  · cases h
  split at h
  · cases h
    exact wellFormed_zero negative
  split at h
  · exact wellFormed_nearest (Nat.mul_pos hpos (Nat.pow_pos (by omega))) Nat.one_pos h
  · exact wellFormed_nearest hpos (Nat.pow_pos (by omega)) h

end Binary64

end FetchPlan.Decimal
