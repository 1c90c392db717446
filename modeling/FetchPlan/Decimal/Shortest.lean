import FetchPlan.Decimal.Binary64

/-!
# The shortest decimal that reads back

Each positive binary64 number is the nearest one to an interval of decimals. Of these the
coarsest grid of powers of ten with a point in the interval has the fewest digits;
`Binary64.shortest` takes that grid's point nearest to the number, a tie going to the even
coefficient.
-/

namespace FetchPlan.Decimal

/-- The decimal `coefficient · 10 ^ exponent`. -/
structure Scaled where
  coefficient : Nat
  exponent : Int
deriving DecidableEq

/-- The interval of reals that round to a number, in quarters of its last binary place.
The ends belong to it when the significand is even. -/
structure Interval where
  lower : Nat
  centre : Nat
  upper : Nat
  closed : Bool

namespace Binary64

/-- Below a power of two the next number is only half as far away as above it. -/
def interval (x : Binary64) : Interval where
  lower :=
    if x.significand = Nat.pow 2 (precision - 1) ∧ leastExponent < x.exponent then
      4 * x.significand - 1
    else 4 * x.significand - 2
  centre := 4 * x.significand
  upper := 4 * x.significand + 2
  closed := x.significand % 2 = 0

end Binary64

namespace Interval

/-- Whether `value · unit` lies in the interval, whose own unit is `scale`. -/
def holds (i : Interval) (scale unit value : Nat) : Bool :=
  if i.closed then decide (i.lower * scale ≤ value * unit ∧ value * unit ≤ i.upper * scale)
  else decide (i.lower * scale < value * unit ∧ value * unit < i.upper * scale)

/-- The multiple of `unit` in the interval that is nearest to its centre: one of the two
neighbours of the centre, if any. -/
def nearestMultiple (i : Interval) (scale unit : Nat) : Option Nat :=
  let below := i.centre * scale / unit
  let rest := i.centre * scale % unit
  let above := below + 1
  match i.holds scale unit below, i.holds scale unit above with
  | true, true =>
    if 2 * rest < unit ∨ (2 * rest = unit ∧ below % 2 = 0) then some below else some above
  | true, false => some below
  | false, true => some above
  | false, false => none

end Interval

namespace Binary64

/-- The multiple of `10 ^ k` nearest to `x` among those that read back as `x`. -/
def onGrid (x : Binary64) (k : Int) : Option Scaled :=
  let e := x.exponent - 2
  let scale := Nat.pow 2 e.toNat * Nat.pow 10 (-k).toNat
  let unit := Nat.pow 2 (-e).toNat * Nat.pow 10 k.toNat
  (x.interval.nearestMultiple scale unit).map (⟨·, k⟩)

/-- The greatest power of ten below the greatest binary64 number. -/
def coarsestGrid : Int := 308

/-- Grids from `10 ^ 308` down to `10 ^ -324`; the last is finer than any interval. -/
def gridCount : Nat := 633

/-- The decimal with the fewest digits that reads back as `x`, and nearest to `x` among
these. -/
def shortest (x : Binary64) : Scaled :=
  if x.significand = 0 then ⟨0, 0⟩
  else
    let found := (List.range gridCount).findSome? fun (i : Nat) =>
      x.onGrid (coarsestGrid - (i : Int))
    found.getD ⟨0, 0⟩

end Binary64

end FetchPlan.Decimal
