/-!
# Binary64 numbers

A finite binary64 number is kept as sign, significand and exponent, so that all
arithmetic on it is arithmetic of integers. `Binary64.nearest` rounds a fraction to the
nearest such number, ties to the even significand; `Binary64.ofDecimal` does so for a
number in decimal notation.
-/

namespace FetchPlan.Decimal

/-- The number `± significand · 2 ^ exponent`. A zero keeps its sign. -/
structure Binary64 where
  negative : Bool
  significand : Nat
  exponent : Int
deriving DecidableEq

/-- `numerator / denominator`, divided by `2 ^ e`, as a fraction again. -/
def scaleBinary (numerator denominator : Nat) (e : Int) : Nat × Nat :=
  if 0 ≤ e then (numerator, denominator * Nat.pow 2 e.toNat)
  else (numerator * Nat.pow 2 (-e).toNat, denominator)

/-- The greatest `e` with `2 ^ e ≤ numerator / denominator`. -/
def floorLog2 (numerator denominator : Nat) : Int :=
  let e : Int := (numerator.log2 : Int) - (denominator.log2 : Int)
  let (a, b) := scaleBinary numerator denominator e
  if b ≤ a then e else e - 1

/-- The nearest integer to a fraction; a tie goes to the even one. -/
def roundHalfEven (numerator denominator : Nat) : Nat :=
  let q := numerator / denominator
  let r := numerator % denominator
  if 2 * r < denominator then q
  else if denominator < 2 * r then q + 1
  else q + q % 2

namespace Binary64

/-- Significands have at most this many binary digits. -/
def precision : Nat := 53

/-- The exponent of the least positive number. -/
def leastExponent : Int := -1074

def greatestExponent : Int := 971

def zero (negative : Bool) : Binary64 := ⟨negative, 0, leastExponent⟩

/-- The binary64 number nearest to a positive fraction, if none of its neighbours would be
beyond the greatest one. -/
def nearest (negative : Bool) (numerator denominator : Nat) : Option Binary64 :=
  let e := max (floorLog2 numerator denominator - (precision - 1 : Nat)) leastExponent
  let (a, b) := scaleBinary numerator denominator e
  let m := roundHalfEven a b
  let (m, e) := if m = Nat.pow 2 precision then (Nat.pow 2 (precision - 1), e + 1) else (m, e)
  if m = 0 then some (zero negative)
  else if greatestExponent < e then none
  else some ⟨negative, m, e⟩

/-- The binary64 number nearest to `± coefficient · 10 ^ exponent`; none when it is out of
range. Numbers far outside the range are told by their count of digits alone. -/
def ofDecimal (negative : Bool) (coefficient : Nat) (exponent : Int) : Option Binary64 :=
  let magnitude : Int := ((Nat.toDigits 10 coefficient).length : Int) + exponent
  if coefficient = 0 then some (zero negative)
  else if 310 < magnitude then none
  else if magnitude < -330 then some (zero negative)
  else if 0 ≤ exponent then nearest negative (coefficient * Nat.pow 10 exponent.toNat) 1
  else nearest negative coefficient (Nat.pow 10 (-exponent).toNat)

end Binary64

end FetchPlan.Decimal
