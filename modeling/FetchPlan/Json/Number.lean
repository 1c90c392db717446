import FetchPlan.Decimal.Layout

/-!
# JSON numbers

A number written without fraction and exponent is an integer as long as it fits 64 bits,
unsigned or, when negative, signed. Any other number is the nearest binary64 number, and
out of range when there is none. The integer zero has no sign, so `-0` is the binary64
number `-0.0`.
-/

namespace FetchPlan.Json

open FetchPlan.Decimal

/-- A JSON number: an integer of 64 bits or a binary64 number. -/
inductive Number where
  | integer (value : Int)
  | float (value : Binary64)
deriving DecidableEq

/-- A number as it is written: sign, digits before and after the point, exponent. -/
structure Numeral where
  negative : Bool
  whole : List Char
  fraction : Option (List Char)
  /-- Whether the exponent is negative, and its digits. -/
  exponent : Option (Bool × List Char)
deriving DecidableEq

/-- The value of a run of decimal digits. -/
def digitsValue (ds : List Char) : Nat :=
  ds.foldl (fun n c => 10 * n + (c.toNat - '0'.toNat)) 0

namespace Number

/-- The integers that are kept as integers: below `2 ^ 64` and not below `-2 ^ 63`. -/
def inRange (i : Int) : Bool :=
  decide (-9223372036854775808 ≤ i ∧ i < 18446744073709551616)

/-- The bounds of positional notation for binary64 numbers: `0.00001` and
`1000000000000000.0` are written out, their neighbours with an exponent. -/
def layout : Layout := ⟨-5, 15⟩

def integerText (i : Int) : List Char :=
  (if i < 0 then ['-'] else []) ++ digits i.natAbs

/-- The text of a binary64 number: the fewest digits that read back. -/
def floatText (x : Binary64) : List Char :=
  (if x.negative then ['-'] else []) ++ layout.text x.shortest

def text : Number → List Char
  | .integer i => integerText i
  | .float x => floatText x

end Number

namespace Numeral

/-- The power of ten that the exponent of a numeral stands for. -/
def scale (n : Numeral) : Int :=
  match n.exponent with
  | none => 0
  | some (negative, ds) =>
    if negative then -(digitsValue ds : Int) else (digitsValue ds : Int)

def float (n : Numeral) : Option Number :=
  let places := n.fraction.getD []
  (Binary64.ofDecimal n.negative (digitsValue (n.whole ++ places))
    (n.scale - (places.length : Int))).map .float

/-- The number that a numeral stands for, if it is in range. -/
def number (n : Numeral) : Option Number :=
  match n.fraction, n.exponent with
  | none, none =>
    let magnitude := digitsValue n.whole
    let i : Int := if n.negative then -(magnitude : Int) else (magnitude : Int)
    if Number.inRange i ∧ ¬ (n.negative ∧ magnitude = 0) then some (.integer i) else n.float
  | _, _ => n.float

end Numeral

end FetchPlan.Json
