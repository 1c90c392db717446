import FetchPlan.Text.CharClass

/-!
# Blanks

The characters that only make space: the space, tabs, line and page breaks, and the
spaces of other widths.
-/

namespace FetchPlan.Text

def blanks : CharClass := [
  (0x9, 0xd), (0x20, 0x20), (0x85, 0x85), (0xa0, 0xa0), (0x1680, 0x1680), (0x2000, 0x200a),
  (0x2028, 0x2029), (0x202f, 0x202f), (0x205f, 0x205f), (0x3000, 0x3000)]

def isBlank (c : Char) : Bool := blanks.covers c

/-- A text without the blanks at its ends. -/
def trim (s : List Char) : List Char := ((s.dropWhile isBlank).reverse.dropWhile isBlank).reverse

end FetchPlan.Text
