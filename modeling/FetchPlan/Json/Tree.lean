import FetchPlan.Json.Value
import FetchPlan.Json.Token

/-!
# JSON trees

A tree is what the grammar alone says of a text. It keeps repeated keys, and has a leaf
`unreadable` where the text has a form but no value: a number out of range, a string with
half of a character, an array or object nested too deeply. `Value.ofTree?` refuses any
such leaf; a reader of records may pass over one in a member that it does not use.

The tokens are read from left to right with a stack of the arrays and objects that are
still open.
-/

namespace FetchPlan.Json

/-- A tree of the JSON grammar. A key is none when it is a string without a value. -/
inductive Tree where
  | unreadable
  | null
  | bool (value : Bool)
  | number (value : Number)
  | string (value : String)
  | array (items : List Tree)
  | object (members : List (Option String × Tree))

/-- Arrays and objects may be nested this many levels deep. -/
def nestingLimit : Nat := 127

/-! ## Reading tokens -/

/-- An array or object that is still open, its last part first. -/
inductive Frame where
  | items (before : List Tree)
  | members (before : List (Option String × Tree)) (key : Option String)

/-- What has been read: the open frames, innermost first, and what may follow. -/
inductive Progress where
  /-- A value must follow. -/
  | value (stack : List Frame)
  /-- An array has just been opened. -/
  | firstItem (stack : List Frame)
  /-- An object has just been opened. -/
  | firstKey (stack : List Frame)
  /-- Another key must follow. -/
  | key (before : List (Option String × Tree)) (stack : List Frame)
  /-- A colon must follow. -/
  | colon (before : List (Option String × Tree)) (key : Option String) (stack : List Frame)
  /-- A value is complete. -/
  | complete (tree : Tree) (stack : List Frame)

namespace Progress

/-- An array or object that has just been closed inside `stack`. -/
def close (limit : Nat) (tree : Tree) (stack : List Frame) : Progress :=
  .complete (if stack.length < limit then tree else .unreadable) stack

/-- The first token of a value. -/
def openValue (stack : List Frame) : Token → Option Progress
  | .null => some (.complete .null stack)
  | .bool b => some (.complete (.bool b) stack)
  | .number n => some (.complete (n.elim .unreadable .number) stack)
  | .string s => some (.complete (s.elim .unreadable .string) stack)
  | .openArray => some (.firstItem stack)
  | .openObject => some (.firstKey stack)
  | _ => none

/-- Reads one token. -/
def step (limit : Nat) (p : Progress) (t : Token) : Option Progress :=
  match p, t with
  | .firstItem stack, .closeArray => some (close limit (.array []) stack)
  | .firstItem stack, t => openValue (.items [] :: stack) t
  | .value stack, t => openValue stack t
  | .firstKey stack, .closeObject => some (close limit (.object []) stack)
  | .firstKey stack, .string k => some (.colon [] k stack)
  | .key before stack, .string k => some (.colon before k stack)
  | .colon before k stack, .colon => some (.value (.members before k :: stack))
  | .complete tree (.items before :: stack), .comma =>
    some (.value (.items (tree :: before) :: stack))
  | .complete tree (.items before :: stack), .closeArray =>
    some (close limit (.array (tree :: before).reverse) stack)
  | .complete tree (.members before k :: stack), .comma =>
    some (.key ((k, tree) :: before) stack)
  | .complete tree (.members before k :: stack), .closeObject =>
    some (close limit (.object ((k, tree) :: before).reverse) stack)
  | _, _ => none

end Progress

/-- The tree that a sequence of tokens spells, if it is exactly one value. -/
def Tree.ofTokens? (limit : Nat) (tokens : List Token) : Option Tree :=
  match tokens.foldlM (Progress.step limit) (.value []) with
  | some (.complete tree []) => some tree
  | _ => none

/-- The tree of a text whose arrays and objects beyond `limit` levels are not read. -/
def Tree.ofText? (limit : Nat) (text : String) : Option Tree :=
  (Token.ofText? text.toList).bind (Tree.ofTokens? limit)

/-! ## Trees and values -/

mutual

/-- The value of a tree, if all of it is readable. -/
def Value.ofTree? : Tree → Option Value
  | .unreadable => none
  | .null => some .null
  | .bool b => some (.bool b)
  | .number n => some (.number n)
  | .string s => some (.string s)
  | .array items => (itemsOfTrees? items).map .array
  | .object members => (pairsOfTrees? members).map fun pairs => .object (Members.ofPairs pairs)
termination_by structural tree => tree

def itemsOfTrees? : List Tree → Option (List Value)
  | [] => some []
  | tree :: rest => do
    let v ← Value.ofTree? tree
    let vs ← itemsOfTrees? rest
    return v :: vs
termination_by structural trees => trees

/-- The keys and values of the members of an object, as they are written. -/
def pairsOfTrees? : List (Option String × Tree) → Option (List (String × Value))
  | [] => some []
  | (key, tree) :: rest => do
    let k ← key
    let v ← Value.ofTree? tree
    let pairs ← pairsOfTrees? rest
    return (k, v) :: pairs
termination_by structural trees => trees

end

mutual

def Value.toTree : Value → Tree
  | .null => .null
  | .bool b => .bool b
  | .number n => .number n
  | .string s => .string s
  | .array items => .array (itemsToTrees items)
  | .object members => .object (membersToTrees members)
termination_by structural v => v

def itemsToTrees : List Value → List Tree
  | [] => []
  | v :: rest => v.toTree :: itemsToTrees rest
termination_by structural vs => vs

def membersToTrees : List (String × Value) → List (Option String × Tree)
  | [] => []
  | (k, v) :: rest => (some k, v.toTree) :: membersToTrees rest
termination_by structural vs => vs

end

/-- The value of a text, if it is a JSON text of at most `limit` levels. -/
def Value.ofText? (limit : Nat) (text : String) : Option Value :=
  (Tree.ofText? limit text).bind Value.ofTree?

end FetchPlan.Json
