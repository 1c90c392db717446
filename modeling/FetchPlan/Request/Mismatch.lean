import FetchPlan.Json.Pointer
import FetchPlan.Text.Quoted

/-!
# Wrongly shaped values

A value of the wrong shape is reported by the pointer to it, the shape that is expected
there and what is found. Found strings are quoted, so that a message stays on one line
whatever the value holds.
-/

namespace FetchPlan

/-- The shapes that parameters and their parts may be expected to have. -/
inductive Shape where
  | strings
  | string
  | sortItems
  | object
  | filterGroups
  | filters
  | count
  | flag
deriving DecidableEq

def Shape.text : Shape → String
  | .strings => "array of strings"
  | .string => "string"
  | .sortItems => "array of sort objects"
  | .object => "object"
  | .filterGroups => "array of filter groups"
  | .filters => "array of filters"
  | .count => "non-negative integer"
  | .flag => "boolean"

/-- What is found where a shape is expected. -/
inductive Found where
  /-- The key is missing. -/
  | nothing
  /-- A value of which only the kind is told. -/
  | kind (value : Json.Kind)
  | number (value : Json.Number)
  | string (value : String)
deriving DecidableEq

namespace Found

/-- Numbers and strings are told in full, other values by their kind. -/
def ofValue : Json.Value → Found
  | .number n => .number n
  | .string s => .string s
  | v => .kind v.kind

def text : Found → String
  | .nothing => "nothing"
  | .kind k => k.name
  | .number n => "number " ++ String.ofList n.text
  | .string s => "string " ++ Text.quoted s

end Found

/-- A value of the wrong shape. -/
structure Mismatch where
  path : Json.Pointer
  expected : Shape
  found : Found
deriving DecidableEq

namespace Mismatch

/-- The mismatch of a value that is there. -/
def ofValue (path : Json.Pointer) (expected : Shape) (v : Json.Value) : Mismatch :=
  ⟨path, expected, .ofValue v⟩

def message (m : Mismatch) : String :=
  "invalid parameter at " ++ m.path.text ++ ": expected " ++ m.expected.text ++ ", got "
    ++ m.found.text

end Mismatch

end FetchPlan
