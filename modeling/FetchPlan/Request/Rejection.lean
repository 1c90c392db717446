import FetchPlan.Filter
import FetchPlan.Include.Selection
import FetchPlan.Request.Mismatch

/-!
# Rejected requests

A request is rejected for one reason, the first that is met; there are no partial plans.
Each is the fault of the caller but one: a missing default mode is a fault of the
configuration.
-/

namespace FetchPlan

/-- How a service answers a rejected request. -/
inductive Status where
  | badRequest
  | serverError
deriving DecidableEq

namespace Status

def code : Status → Nat
  | .badRequest => 400
  | .serverError => 500

/-- The number and the words of a status. -/
def text : Status → String
  | .badRequest => "400 Bad Request"
  | .serverError => "500 Internal Server Error"

end Status

inductive Rejection where
  | mismatch (mismatch : Mismatch)
  | missingFilters (missing : Filter.MissingFilters)
  | missingMode (missing : Include.MissingMode)
  | pageWithoutLimit
deriving DecidableEq

namespace Rejection

def message : Rejection → String
  | .mismatch m => m.message
  | .missingFilters missing =>
    "filter group " ++ String.ofList (Decimal.digits missing.group)
      ++ " does not have the 'filters' key"
  | .missingMode missing =>
    "include '" ++ missing.token ++ "' has no mode and no default mode is configured"
  | .pageWithoutLimit => "cannot use page option without limit option"

/-- The status of the answer to a rejected request. -/
def status : Rejection → Status
  | .missingMode _ => .serverError
  | _ => .badRequest

end Rejection

end FetchPlan
