import FetchPlan.Json.Tree
import FetchPlan.Count

/-!
# Strict reading of records

A record is written as an object or as an array. In an object the known keys may come in
any order but each at most once, and members under other keys are passed over unread; an
array lists the values of the known keys in their order and may stop early. Nothing is
converted: a flag is a boolean and a count an integer.
-/

namespace FetchPlan.Json.Tree

/-! ## Plain values -/

def string? : Tree → Option String
  | .string s => some s
  | _ => none

def flag? : Tree → Option Bool
  | .bool b => some b
  | _ => none

/-- A count, written as an integer. -/
def count? : Tree → Option Count
  | .number (.integer i) => Count.ofInt? i
  | _ => none

def nullable? {α : Type} (read : Tree → Option α) : Tree → Option (Option α)
  | .null => some none
  | tree => (read tree).map some

def list? {α : Type} (read : Tree → Option α) : Tree → Option (List α)
  | .array items => items.mapM read
  | _ => none

/-- An object with a string under each key, as it is written. -/
def strings? : Tree → Option (List (String × String))
  | .object members => members.mapM fun (key, tree) => do
    let k ← key
    let s ← tree.string?
    return (k, s)
  | _ => none

/-! ## Records -/

/-- The known fields of a record that are present. -/
abbrev Fields := List (String × Tree)

/-- The fields of a record with these names, if it is well formed. -/
def fields? (names : List String) : Tree → Option Fields
  | .object members => do
    let pairs ← members.mapM fun (key, tree) => key.map (·, tree)
    let known := pairs.filter (·.1 ∈ names)
    guard (known.map (·.1)).Nodup
    return known
  | .array items => do
    guard (items.length ≤ names.length)
    return names.zip items
  | _ => none

/-- The value of a field that must be present. -/
def required? {α : Type} (fields : Fields) (name : String) (read : Tree → Option α) :
    Option α :=
  (fields.lookup name).bind read

/-- The value of a field that may be absent or null. -/
def optional? {α : Type} (fields : Fields) (name : String) (read : Tree → Option α) :
    Option (Option α) :=
  match fields.lookup name with
  | none => some none
  | some tree => nullable? read tree

end FetchPlan.Json.Tree
