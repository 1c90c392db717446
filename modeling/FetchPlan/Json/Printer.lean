import FetchPlan.Json.Value
import FetchPlan.Json.Literal

/-!
# Writing JSON

Two forms of a value: `compact` without any blank, and `pretty` with one item or member a
line, two spaces a level, and a space after the colon. Empty arrays and objects stay
closed in both.
-/

namespace FetchPlan.Json

def quote (s : String) : List Char := Literal.text s.toList

/-! ## Compact form -/

mutual

def Value.compactChars : Value → List Char
  | .null => ['n', 'u', 'l', 'l']
  | .bool true => ['t', 'r', 'u', 'e']
  | .bool false => ['f', 'a', 'l', 's', 'e']
  | .number n => n.text
  | .string s => quote s
  | .array [] => ['[', ']']
  | .array (v :: rest) => '[' :: v.compactChars ++ compactItems rest ++ [']']
  | .object [] => ['\x7b', '\x7d']
  | .object ((k, v) :: rest) =>
    '\x7b' :: quote k ++ ':' :: v.compactChars ++ compactMembers rest ++ ['\x7d']
termination_by structural v => v

/-- Further items, each after a comma. -/
def compactItems : List Value → List Char
  | [] => []
  | v :: rest => ',' :: v.compactChars ++ compactItems rest
termination_by structural vs => vs

/-- Further members, each after a comma. -/
def compactMembers : List (String × Value) → List Char
  | [] => []
  | (k, v) :: rest => ',' :: quote k ++ ':' :: v.compactChars ++ compactMembers rest
termination_by structural vs => vs

end

def Value.compact (v : Value) : String := String.ofList v.compactChars

/-! ## Pretty form -/

/-- The start of a line `depth` levels inside. -/
def newline (depth : Nat) : List Char := '\n' :: List.replicate (2 * depth) ' '

mutual

/-- The characters of the pretty form of a value that stands `depth` levels inside. -/
def Value.prettyChars (depth : Nat) : Value → List Char
  | .null => ['n', 'u', 'l', 'l']
  | .bool true => ['t', 'r', 'u', 'e']
  | .bool false => ['f', 'a', 'l', 's', 'e']
  | .number n => n.text
  | .string s => quote s
  | .array [] => ['[', ']']
  | .array (v :: rest) =>
    '[' :: newline (depth + 1) ++ v.prettyChars (depth + 1) ++ prettyItems (depth + 1) rest
      ++ newline depth ++ [']']
  | .object [] => ['\x7b', '\x7d']
  | .object ((k, v) :: rest) =>
    '\x7b' :: newline (depth + 1) ++ quote k ++ ':' :: ' ' :: v.prettyChars (depth + 1)
      ++ prettyMembers (depth + 1) rest ++ newline depth ++ ['\x7d']
termination_by structural v => v

/-- Further items, each on a line of its own. -/
def prettyItems (depth : Nat) : List Value → List Char
  | [] => []
  | v :: rest => ',' :: newline depth ++ v.prettyChars depth ++ prettyItems depth rest
termination_by structural vs => vs

/-- Further members, each on a line of its own. -/
def prettyMembers (depth : Nat) : List (String × Value) → List Char
  | [] => []
  | (k, v) :: rest =>
    ',' :: newline depth ++ quote k ++ ':' :: ' ' :: v.prettyChars depth
      ++ prettyMembers depth rest
termination_by structural vs => vs

end

/-- The pretty form of a value, without a line feed at its end. -/
def Value.pretty (v : Value) : String := String.ofList (v.prettyChars 0)

end FetchPlan.Json
