import FetchPlan.Filter
import FetchPlan.Include.Selection
import FetchPlan.Sort

/-!
# Plans

A plan says completely what to fetch and how to shape it. Its JSON form writes every part,
the modes in the order of their keys.
-/

namespace FetchPlan

structure Plan where
  includes : List String
  modes : Include.Modes
  sort : List Sort.Term
  limit : Option Count
  page : Option Count
  filterGroups : List Filter.Group
  groupBy : String
  selects : String
deriving DecidableEq

namespace Plan

def toJson (p : Plan) : Json.Value :=
  .object [
    ("includes", .ofStrings p.includes),
    ("modes", .object (p.modes.entries.map fun (key, mode) => (key, .string mode))),
    ("sort", .array (p.sort.map Sort.Term.toJson)),
    ("limit", Count.toJson p.limit),
    ("page", Count.toJson p.page),
    ("filter_groups", .array (p.filterGroups.map Filter.Group.toJson)),
    ("group_by", .string p.groupBy),
    ("selects", .string p.selects)]

def names : List String :=
  ["includes", "modes", "sort", "limit", "page", "filter_groups", "group_by", "selects"]

/-- Reads a plan. A key that the modes repeat takes its last mode. -/
def ofTree? (tree : Json.Tree) : Option Plan := do
  let fields ← tree.fields? names
  let includes ← Json.Tree.required? fields "includes" (Json.Tree.list? Json.Tree.string?)
  let modes ← Json.Tree.required? fields "modes" Json.Tree.strings?
  let sort ← Json.Tree.required? fields "sort" (Json.Tree.list? Sort.Term.ofTree?)
  let limit ← Json.Tree.optional? fields "limit" Json.Tree.count?
  let page ← Json.Tree.optional? fields "page" Json.Tree.count?
  let filterGroups ←
    Json.Tree.required? fields "filter_groups" (Json.Tree.list? Filter.Group.ofTree?)
  let groupBy ← Json.Tree.required? fields "group_by" Json.Tree.string?
  let selects ← Json.Tree.required? fields "selects" Json.Tree.string?
  return { includes, modes := .ofList modes, sort, limit, page, filterGroups, groupBy, selects }

/-- Hands fetched data to a shaper, together with the modes of the plan. -/
def shape {α : Type} (p : Plan) (shaper : Json.Value → Include.Modes → Option String → α)
    (data : Json.Value) (key : Option String) : α :=
  shaper data p.modes key

end Plan

end FetchPlan
