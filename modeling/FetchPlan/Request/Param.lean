import FetchPlan.Json.Pointer

/-!
# Parameters

A request has seven parameters. Anything that gives a value for some names can carry them:
an object, a list of members, a map. A parameter that is null is there.
-/

namespace FetchPlan

inductive Param where
  | includes
  | sort
  | limit
  | page
  | filterGroups
  | groupBy
  | selects
deriving DecidableEq

namespace Param

def name : Param → String
  | .includes => "includes"
  | .sort => "sort"
  | .limit => "limit"
  | .page => "page"
  | .filterGroups => "filter_groups"
  | .groupBy => "group_by"
  | .selects => "selects"

/-- Where a parameter stands in a request. -/
def path (p : Param) : Json.Pointer := [.key p.name]

def all : List Param := [.includes, .sort, .limit, .page, .filterGroups, .groupBy, .selects]

end Param

/-- What a request says: a value for each of the names that it carries. -/
abbrev Params := String → Option Json.Value

namespace Params

def ofMembers (members : Json.Members) : Params := members.get?

/-- The parameters of a value: only an object carries any. -/
def ofValue (v : Json.Value) : Params := ofMembers (v.members?.getD [])

end Params

end FetchPlan
