import FetchPlan.Json.Number

/-!
# JSON values

A JSON object keeps its members in the order of the document. `Members.ofPairs` reads a
sequence of pairs as members: a repeated key keeps its first place and takes its last
value.
-/

namespace FetchPlan.Json

inductive Value where
  | null
  | bool (value : Bool)
  | number (value : Number)
  | string (value : String)
  | array (items : List Value)
  | object (members : List (String × Value))

/-- The members of an object, in document order. -/
abbrev Members := List (String × Value)

/-! ## Equality -/

mutual

/-- Values are compared with the order of their members. -/
def Value.decEq (a b : Value) : Decidable (a = b) :=
  match a, b with
  | .null, .null => isTrue rfl
  | .bool x, .bool y => decidable_of_iff (x = y) (by simp)
  | .number x, .number y => decidable_of_iff (x = y) (by simp)
  | .string x, .string y => decidable_of_iff (x = y) (by simp)
  | .array x, .array y =>
    match itemsDecEq x y with
    | isTrue h => isTrue (by rw [h])
    | isFalse h => isFalse (by simpa using h)
  | .object x, .object y =>
    match membersDecEq x y with
    | isTrue h => isTrue (by rw [h])
    | isFalse h => isFalse (by simpa using h)
  | .null, .bool _ | .null, .number _ | .null, .string _ | .null, .array _
  | .null, .object _ | .bool _, .null | .bool _, .number _ | .bool _, .string _
  | .bool _, .array _ | .bool _, .object _ | .number _, .null | .number _, .bool _
  | .number _, .string _ | .number _, .array _ | .number _, .object _ | .string _, .null
  | .string _, .bool _ | .string _, .number _ | .string _, .array _ | .string _, .object _
  | .array _, .null | .array _, .bool _ | .array _, .number _ | .array _, .string _
  | .array _, .object _ | .object _, .null | .object _, .bool _ | .object _, .number _
  | .object _, .string _ | .object _, .array _ => isFalse (by simp)
termination_by structural a

def itemsDecEq (a b : List Value) : Decidable (a = b) :=
  match a, b with
  | [], [] => isTrue rfl
  | x :: xs, y :: ys =>
    match Value.decEq x y, itemsDecEq xs ys with
    | isTrue h, isTrue hs => isTrue (by rw [h, hs])
    | isFalse h, _ => isFalse (by simp [h])
    | _, isFalse h => isFalse (by simp [h])
  | [], _ :: _ | _ :: _, [] => isFalse (by simp)
termination_by structural a

def membersDecEq (a b : List (String × Value)) : Decidable (a = b) :=
  match a, b with
  | [], [] => isTrue rfl
  | (j, x) :: xs, (k, y) :: ys =>
    match decEq j k, Value.decEq x y, membersDecEq xs ys with
    | isTrue h, isTrue h', isTrue hs => isTrue (by rw [h, h', hs])
    | isFalse h, _, _ => isFalse (by simp [h])
    | _, isFalse h, _ => isFalse (by simp [h])
    | _, _, isFalse h => isFalse (by simp [h])
  | [], _ :: _ | _ :: _, [] => isFalse (by simp)
termination_by structural a

end

instance : DecidableEq Value := Value.decEq

/-! ## Kinds -/

inductive Kind where
  | null
  | boolean
  | number
  | string
  | array
  | object
deriving DecidableEq

/-- The name of a kind in messages. -/
def Kind.name : Kind → String
  | .null => "null"
  | .boolean => "boolean"
  | .number => "number"
  | .string => "string"
  | .array => "array"
  | .object => "object"

def Value.kind : Value → Kind
  | .null => .null
  | .bool _ => .boolean
  | .number _ => .number
  | .string _ => .string
  | .array _ => .array
  | .object _ => .object

/-! ## Members -/

namespace Members

/-- The value of the first member of that name. -/
def get? (members : Members) (name : String) : Option Value := members.lookup name

/-- Gives `name` the value `v`: in its place if it is there, at the end otherwise. -/
def insert (members : Members) (name : String) (v : Value) : Members :=
  match members with
  | [] => [(name, v)]
  | (k, w) :: rest => if k = name then (k, v) :: rest else (k, w) :: insert rest name v

/-- The members that a sequence of pairs writes, one after the other. -/
def ofPairs (pairs : List (String × Value)) : Members :=
  pairs.foldl (fun members p => insert members p.1 p.2) []

end Members

namespace Value

/-- The members of an object; other values have none. -/
def members? : Value → Option Members
  | .object members => some members
  | _ => none

/-- The natural number `n` as a value. -/
def ofNat (n : Nat) : Value := .number (.integer n)

/-- Texts as an array of strings. -/
def ofStrings (texts : List String) : Value := .array (texts.map .string)

end Value

end FetchPlan.Json
