import FetchPlan.Decimal.Shortest

/-!
# Writing decimals

A decimal `d.ddd · 10 ^ e` is written positionally while `e` is within the bounds of a
`Layout`, and with an exponent otherwise. The positional form always shows a point; the
exponent always shows its sign.
-/

namespace FetchPlan.Decimal

def digits (n : Nat) : List Char := Nat.toDigits 10 n

/-- The bounds on the decimal exponent within which numbers are written positionally. -/
structure Layout where
  leastPositional : Int
  greatestPositional : Int

def zeros (count : Nat) : List Char := List.replicate count '0'

/-- Positional form of the digits `ds` times `10 ^ exponent`. -/
def positional (ds : List Char) (exponent : Int) : List Char :=
  if 0 ≤ exponent then ds ++ zeros exponent.toNat ++ ['.', '0']
  else
    let places := (-exponent).toNat
    if places < ds.length then
      ds.take (ds.length - places) ++ '.' :: ds.drop (ds.length - places)
    else '0' :: '.' :: zeros (places - ds.length) ++ ds

/-- The sign and digits of an exponent. -/
def exponentText (e : Int) : List Char :=
  (if e < 0 then '-' else '+') :: digits e.natAbs

/-- Form with one digit before the point, no point when there is only one digit. -/
def withExponent (ds : List Char) (e : Int) : List Char :=
  match ds with
  | [] => []
  | [d] => d :: 'e' :: exponentText e
  | d :: rest => d :: '.' :: rest ++ 'e' :: exponentText e

def Layout.text (l : Layout) (x : Scaled) : List Char :=
  let ds := digits x.coefficient
  let e : Int := x.exponent + (ds.length : Int) - 1
  if l.leastPositional ≤ e ∧ e ≤ l.greatestPositional then positional ds x.exponent
  else withExponent ds e

end FetchPlan.Decimal
