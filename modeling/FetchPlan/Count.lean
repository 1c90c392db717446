import FetchPlan.Json.Value

/-!
# Counts

Limits and page numbers are counts below `2 ^ 64`. A number beyond that is no count; it
never wraps.
-/

namespace FetchPlan

/-- A count of 64 bits. -/
abbrev Count := UInt64

namespace Count

/-- The count `n`, if it is below `2 ^ 64`. -/
def ofNat? (n : Nat) : Option Count :=
  if h : n < UInt64.size then some (UInt64.ofNatLT n h) else none

/-- The count that an integer is, if it is neither negative nor too great. -/
def ofInt? (i : Int) : Option Count :=
  match i with
  | .ofNat n => ofNat? n
  | .negSucc _ => none

/-- The count that a run of decimal digits spells, with any number of leading zeros. -/
def ofDigits? (s : String) : Option Count :=
  if s.toList.all Char.isDigit then ofNat? (Json.digitsValue s.toList) else none

/-- A count as a JSON number, or null when there is none. -/
def toJson (count : Option Count) : Json.Value :=
  match count with
  | none => .null
  | some n => .ofNat n.toNat

theorem ofNat?_toNat (n : Count) : ofNat? n.toNat = some n := by
  simp [ofNat?, UInt64.toNat_lt_size]

theorem toNat_of_ofNat? {n : Nat} {c : Count} (h : ofNat? n = some c) : c.toNat = n := by
  unfold ofNat? at h
  split at h
  · simp only [Option.some.injEq] at h
    subst h
    simp
  · simp at h

end Count

end FetchPlan
