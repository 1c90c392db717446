import FetchPlan.Json.Record

/-!
# Sorting

A sort item names a field and may name a direction. Settling an item fills in the
direction `asc` and leaves any given direction as it is, also an unknown one.
-/

namespace FetchPlan.Sort

/-- A sort item as it is given. -/
structure Draft where
  field : String
  direction : Option String
deriving DecidableEq

structure Term where
  field : String
  direction : String
deriving DecidableEq

/-- The direction of an item that names none. -/
def ascending : String := "asc"

def Draft.settle (d : Draft) : Term := ⟨d.field, d.direction.getD ascending⟩

/-- A settled item, given again with its direction. -/
def Term.toDraft (t : Term) : Draft := ⟨t.field, some t.direction⟩

/-- Whether the direction is `desc`, in any ASCII case. -/
def Term.isDescending (t : Term) : Bool :=
  t.direction.toList.map Char.toLower = ['d', 'e', 's', 'c']

/-- Settling a settled item changes nothing. -/
@[simp] theorem settle_toDraft (t : Term) : t.toDraft.settle = t := rfl

/-! ## JSON forms -/

/-- A direction that is left out is not written. -/
def Draft.toJson (d : Draft) : Json.Value :=
  .object (("field", .string d.field) ::
    match d.direction with
    | none => []
    | some direction => [("direction", .string direction)])

def Term.toJson (t : Term) : Json.Value :=
  .object [("field", .string t.field), ("direction", .string t.direction)]

def names : List String := ["field", "direction"]

def Draft.ofTree? (tree : Json.Tree) : Option Draft := do
  let fields ← tree.fields? names
  let field ← Json.Tree.required? fields "field" Json.Tree.string?
  let direction ← Json.Tree.optional? fields "direction" Json.Tree.string?
  return ⟨field, direction⟩

def Term.ofTree? (tree : Json.Tree) : Option Term := do
  let fields ← tree.fields? names
  let field ← Json.Tree.required? fields "field" Json.Tree.string?
  let direction ← Json.Tree.required? fields "direction" Json.Tree.string?
  return ⟨field, direction⟩

end FetchPlan.Sort
