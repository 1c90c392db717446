import FetchPlan.Defaults.Basic
import FetchPlan.Plan
import FetchPlan.Request.Decode
import FetchPlan.Request.Param
import FetchPlan.Request.Rejection

/-!
# Assembling a plan

Each parameter of a request is read, or taken from the defaults when the request leaves it
out, and then settled. A default is never looked at when the request carries the parameter,
even as null. The parameters are taken in a fixed order, and the first fault rejects the
request; that a page needs a limit is checked last, on the values that hold in the end.
-/

namespace FetchPlan

open Json (Value Pointer)

namespace Request

/-- The value of a parameter, or the default when the request leaves it out. -/
def given {α : Type} (params : Params) (p : Param)
    (read : Pointer → Value → Except Mismatch α) (fallback : α) : Except Rejection α :=
  match params p.name with
  | some v => (read p.path v).mapError .mismatch
  | none => .ok fallback

end Request

/-- The plan that a request asks for. -/
def Plan.assemble (params : Params) (defaults : Defaults) : Except Rejection Plan := do
  let tokens ← Request.given params .includes Decode.includes defaults.includes
  let selection ←
    (Include.Selection.ofTokens defaults.mode tokens).mapError Rejection.missingMode
  let sort ← Request.given params .sort Decode.sort defaults.sort
  let limit ← Request.given params .limit Decode.count defaults.limit
  let page ← Request.given params .page Decode.count defaults.page
  let groups ← Request.given params .filterGroups Decode.filterGroups defaults.filterGroups
  let filterGroups ← (Filter.settle groups).mapError Rejection.missingFilters
  let groupBy ← Request.given params .groupBy Decode.string defaults.groupBy
  let selects ← Request.given params .selects Decode.string defaults.selects
  if page.isSome ∧ limit.isNone then throw .pageWithoutLimit
  return {
    includes := selection.directives
    modes := selection.modes
    sort := sort.map Sort.Draft.settle
    limit, page, filterGroups, groupBy, selects }

end FetchPlan
