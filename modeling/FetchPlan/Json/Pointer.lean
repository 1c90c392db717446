import FetchPlan.Json.Value
import FetchPlan.Decimal.Layout

/-!
# JSON pointers

A pointer leads from a document to one of its parts, by keys and by positions. Its text has
a `/` before each step; inside a key `~` is written `~0` and `/` is written `~1`.
-/

namespace FetchPlan.Json

inductive Pointer.Step where
  | key (name : String)
  | index (position : Nat)
deriving DecidableEq

/-- The steps from the document to the part. -/
abbrev Pointer := List Pointer.Step

namespace Pointer

/-- A character of a key. -/
def escape (c : Char) : List Char :=
  if c = '~' then ['~', '0'] else if c = '/' then ['~', '1'] else [c]

def Step.text : Step → List Char
  | .key name => name.toList.flatMap escape
  | .index position => Decimal.digits position

def text (p : Pointer) : String := String.ofList (p.flatMap fun s => '/' :: s.text)

/-- The part that one step leads to. -/
def Step.follow (s : Step) (v : Value) : Option Value :=
  match s, v with
  | .key name, .object members => Members.get? members name
  | .index position, .array items => items[position]?
  | _, _ => none

/-- The part of a document that a pointer leads to. -/
def resolve? (p : Pointer) (v : Value) : Option Value :=
  match p with
  | [] => some v
  | s :: rest => (s.follow v).bind (resolve? rest)

end Pointer

end FetchPlan.Json
