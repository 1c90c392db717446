import FetchPlan.Filter
import FetchPlan.Request.Mismatch
import FetchPlan.Sort

/-!
# Reading parameters

A request may come from a form, where all is text; so a count may be a run of digits, a
flag may be one of a few words, and a single include need not stand in an array. Values
are read from left to right and from the outside in, and the first one of a wrong shape
is reported.
-/

namespace FetchPlan.Decode

open Json (Value Members Pointer)

/-! ## Single values -/

def string (path : Pointer) (v : Value) : Except Mismatch String :=
  match v with
  | .string s => .ok s
  | v => .error (.ofValue path .string v)

/-- The count that a value stands for, and none for a value that clears it. -/
def countOf? : Value → Option (Option Count)
  | .null => some none
  | .number (.integer i) => (Count.ofInt? i).map some
  | .string s => if s = "" then some none else (Count.ofDigits? s).map some
  | _ => none

/-- A count: a non-negative integer or its digits. Null and the empty string clear it. -/
def count (path : Pointer) (v : Value) : Except Mismatch (Option Count) :=
  match countOf? v with
  | some n => .ok n
  | none => .error (.ofValue path .count v)

/-- The flag that a value stands for. -/
def flagOf? : Value → Option Bool
  | .bool b => some b
  | .number n => if n = .integer 0 then some false else if n = .integer 1 then some true else none
  | .string s =>
    if s = "true" ∨ s = "1" then some true
    else if s = "false" ∨ s = "0" then some false
    else none
  | _ => none

/-- A flag: a boolean, `0` or `1`, or one of these as text. -/
def flag (path : Pointer) (v : Value) : Except Mismatch Bool :=
  match flagOf? v with
  | some b => .ok b
  | none => .error (.ofValue path .flag v)

/-! ## Parts of arrays and objects -/

def items (path : Pointer) (expected : Shape) (v : Value) : Except Mismatch (List Value) :=
  match v with
  | .array items => .ok items
  | v => .error (.ofValue path expected v)

def members (path : Pointer) (v : Value) : Except Mismatch Members :=
  match v with
  | .object members => .ok members
  | v => .error (.ofValue path .object v)

/-- Reads items one after the other; the first of them stands at `position`. -/
def eachFrom {α : Type} (read : Pointer → Value → Except Mismatch α) (path : Pointer)
    (position : Nat) : List Value → Except Mismatch (List α)
  | [] => .ok []
  | v :: rest => do
    let x ← read (path ++ [.index position]) v
    let xs ← eachFrom read path (position + 1) rest
    return x :: xs

def each {α : Type} (read : Pointer → Value → Except Mismatch α) (path : Pointer)
    (vs : List Value) : Except Mismatch (List α) :=
  eachFrom read path 0 vs

/-- A string that must be there. -/
def requiredString (path : Pointer) (members : Members) (key : String) :
    Except Mismatch String :=
  match members.get? key with
  | some v => string (path ++ [.key key]) v
  | none => .error ⟨path ++ [.key key], .string, .nothing⟩

/-- A value that may be left out, or null. -/
def optional {α : Type} (read : Pointer → Value → Except Mismatch α) (path : Pointer)
    (members : Members) (key : String) : Except Mismatch (Option α) :=
  match members.get? key with
  | none | some .null => .ok none
  | some v => (read (path ++ [.key key]) v).map some

/-! ## Parameters -/

/-- Include tokens: an array of strings, or one string. -/
def includes (path : Pointer) (v : Value) : Except Mismatch (List String) :=
  match v with
  | .string s => .ok [s]
  | .array vs => each string path vs
  | v => .error (.ofValue path .strings v)

def sortItem (path : Pointer) (v : Value) : Except Mismatch Sort.Draft := do
  let ms ← members path v
  let field ← requiredString path ms "field"
  let direction ← optional string path ms "direction"
  return ⟨field, direction⟩

def sort (path : Pointer) (v : Value) : Except Mismatch (List Sort.Draft) := do
  let vs ← items path .sortItems v
  each sortItem path vs

/-- A filter. A value left out is null. -/
def filter (path : Pointer) (v : Value) : Except Mismatch Filter.Draft := do
  let ms ← members path v
  let key ← requiredString path ms "key"
  let operator ← requiredString path ms "operator"
  let negated ← optional flag path ms "not"
  return ⟨key, operator, (ms.get? "value").getD .null, negated⟩

/-- The filters of a group. A list that is left out is not there, but null is no list. -/
def groupFilters (path : Pointer) (ms : Members) :
    Except Mismatch (Option (List Filter.Draft)) :=
  match ms.get? "filters" with
  | none => .ok none
  | some v => do
    let path := path ++ [.key "filters"]
    let vs ← items path .filters v
    let filters ← each filter path vs
    return some filters

def filterGroup (path : Pointer) (v : Value) : Except Mismatch Filter.GroupDraft := do
  let ms ← members path v
  let filters ← groupFilters path ms
  let disjunctive ← optional flag path ms "or"
  return ⟨filters, disjunctive⟩

def filterGroups (path : Pointer) (v : Value) : Except Mismatch (List Filter.GroupDraft) := do
  let vs ← items path .filterGroups v
  each filterGroup path vs

end FetchPlan.Decode
