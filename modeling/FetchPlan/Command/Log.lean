import FetchPlan.Plan
import FetchPlan.Request.Rejection

/-!
# Log events

Each assembled request is worth one log event. An event has a level, a target that says
where it comes from, a message and some details, and is written as one line.
-/

namespace FetchPlan.Command

/-- The levels of log events, the most severe first; `off` is above all of them. -/
inductive Level where
  | off
  | error
  | warn
  | info
  | debug
  | trace
deriving DecidableEq

namespace Level

def all : List Level := [.off, .error, .warn, .info, .debug, .trace]

/-- How much is shown up to a level. -/
def verbosity : Level → Nat
  | .off => 0
  | .error => 1
  | .warn => 2
  | .info => 3
  | .debug => 4
  | .trace => 5

def name : Level → String
  | .off => "OFF"
  | .error => "ERROR"
  | .warn => "WARN"
  | .info => "INFO"
  | .debug => "DEBUG"
  | .trace => "TRACE"

end Level

structure Event where
  level : Level
  target : String
  message : String
  /-- Names and values, in the order of the line. -/
  details : List (String × String)
deriving DecidableEq

namespace Event

/-- The names of all that an event says. -/
def fields (e : Event) : List String := "message" :: e.details.map (·.1)

/-- A detail in the line of an event. -/
def detailText (detail : String × String) : String := " " ++ detail.1 ++ "=" ++ detail.2

/-- The line of an event, with its line feed. -/
def line (e : Event) : String :=
  e.level.name ++ " " ++ e.target ++ ": " ++ e.message ++ String.join (e.details.map detailText)
    ++ "\n"

/-! ## The event of a request -/

def numberText (n : Nat) : String := String.ofList (Decimal.digits n)

def countText (c : Option Count) : String :=
  match c with
  | none => "None"
  | some n => "Some(" ++ numberText n.toNat ++ ")"

def ofPlan (p : Plan) : Event where
  level := .debug
  target := "resource_query::options"
  message := "resource options assembled"
  details := [
    ("includes", numberText p.includes.length), ("sort", numberText p.sort.length),
    ("filter_groups", numberText p.filterGroups.length), ("limit", countText p.limit),
    ("page", countText p.page)]

def ofRejection (r : Rejection) : Event where
  level := .debug
  target := "resource_query::options"
  message := "resource options rejected"
  details := [("error", r.message)]

end Event

end FetchPlan.Command
