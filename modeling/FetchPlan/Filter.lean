import FetchPlan.Json.Record

/-!
# Filters

A filter tests a key with an operator and a value, both opaque here, and may be negated.
Filters stand in groups, joined by AND unless the group says OR. Settling makes negation
and joining explicit and keeps all else in place; a group without its list of filters
cannot be settled.
-/

namespace FetchPlan.Filter

/-- A filter as it is given. -/
structure Draft where
  key : String
  operator : String
  value : Json.Value
  negated : Option Bool
deriving DecidableEq

structure Test where
  key : String
  operator : String
  value : Json.Value
  negated : Bool
deriving DecidableEq

structure GroupDraft where
  filters : Option (List Draft)
  disjunctive : Option Bool
deriving DecidableEq

/-- Filters joined by OR, or else by AND. -/
structure Group where
  filters : List Test
  disjunctive : Bool
deriving DecidableEq

/-- A group without filters, by its position. -/
structure MissingFilters where
  group : Nat
deriving DecidableEq

/-! ## Settling -/

def Draft.settle (d : Draft) : Test := ⟨d.key, d.operator, d.value, d.negated.getD false⟩

def GroupDraft.settle? (g : GroupDraft) : Option Group :=
  g.filters.map fun filters => ⟨filters.map Draft.settle, g.disjunctive.getD false⟩

/-- Settles groups that follow `position` others. -/
def settleFrom (position : Nat) : List GroupDraft → Except MissingFilters (List Group)
  | [] => .ok []
  | g :: rest =>
    match g.settle? with
    | none => .error ⟨position⟩
    | some group => (settleFrom (position + 1) rest).map (group :: ·)

/-- Settles all groups, or names the first one without filters. -/
def settle (groups : List GroupDraft) : Except MissingFilters (List Group) :=
  settleFrom 0 groups

/-- A settled filter, given again with its negation. -/
def Test.toDraft (t : Test) : Draft := ⟨t.key, t.operator, t.value, some t.negated⟩

/-- A settled group, given again with its joining. -/
def Group.toDraft (g : Group) : GroupDraft :=
  ⟨some (g.filters.map Test.toDraft), some g.disjunctive⟩

/-- Settling a settled group changes nothing. -/
@[simp] theorem settle?_toDraft (g : Group) : g.toDraft.settle? = some g := by
  have : Draft.settle ∘ Test.toDraft = id := rfl
  simp [GroupDraft.settle?, Group.toDraft, this]

/-! ## JSON forms -/

/-- The value is always written, the negation only if it is given. -/
def Draft.toJson (d : Draft) : Json.Value :=
  .object ([("key", .string d.key), ("operator", .string d.operator), ("value", d.value)] ++
    match d.negated with
    | none => []
    | some negated => [("not", .bool negated)])

def Test.toJson (t : Test) : Json.Value :=
  .object [("key", .string t.key), ("operator", .string t.operator), ("value", t.value),
    ("not", .bool t.negated)]

/-- The parts that are given. -/
def GroupDraft.toJson (g : GroupDraft) : Json.Value :=
  .object (
    (match g.filters with
      | none => []
      | some filters => [("filters", .array (filters.map Draft.toJson))]) ++
    match g.disjunctive with
    | none => []
    | some disjunctive => [("or", .bool disjunctive)])

def Group.toJson (g : Group) : Json.Value :=
  .object [("filters", .array (g.filters.map Test.toJson)), ("or", .bool g.disjunctive)]

def names : List String := ["key", "operator", "value", "not"]

def groupNames : List String := ["filters", "or"]

/-- Reads a filter as it is given; a value left out is null. -/
def Draft.ofTree? (tree : Json.Tree) : Option Draft := do
  let fields ← tree.fields? names
  let key ← Json.Tree.required? fields "key" Json.Tree.string?
  let operator ← Json.Tree.required? fields "operator" Json.Tree.string?
  let value ← ((fields.lookup "value").map Json.Value.ofTree?).getD (some .null)
  let negated ← Json.Tree.optional? fields "not" Json.Tree.flag?
  return ⟨key, operator, value, negated⟩

def Test.ofTree? (tree : Json.Tree) : Option Test := do
  let fields ← tree.fields? names
  let key ← Json.Tree.required? fields "key" Json.Tree.string?
  let operator ← Json.Tree.required? fields "operator" Json.Tree.string?
  let value ← Json.Tree.required? fields "value" Json.Value.ofTree?
  let negated ← Json.Tree.required? fields "not" Json.Tree.flag?
  return ⟨key, operator, value, negated⟩

def GroupDraft.ofTree? (tree : Json.Tree) : Option GroupDraft := do
  let fields ← tree.fields? groupNames
  let filters ← Json.Tree.optional? fields "filters" (Json.Tree.list? Draft.ofTree?)
  let disjunctive ← Json.Tree.optional? fields "or" Json.Tree.flag?
  return ⟨filters, disjunctive⟩

def Group.ofTree? (tree : Json.Tree) : Option Group := do
  let fields ← tree.fields? groupNames
  let filters ← Json.Tree.required? fields "filters" (Json.Tree.list? Test.ofTree?)
  let disjunctive ← Json.Tree.required? fields "or" Json.Tree.flag?
  return ⟨filters, disjunctive⟩

end FetchPlan.Filter
