/-!
# Classes of characters

A class of characters is a list of ranges of code points, both ends included.
-/

namespace FetchPlan.Text

abbrev CharClass := List (Nat × Nat)

def CharClass.covers (k : CharClass) (c : Char) : Bool :=
  k.any fun range => decide (range.1 ≤ c.toNat ∧ c.toNat ≤ range.2)

end FetchPlan.Text
