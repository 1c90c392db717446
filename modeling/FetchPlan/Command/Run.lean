import FetchPlan.Command.Arguments
import FetchPlan.Command.LogFilter
import FetchPlan.Document.Load
import FetchPlan.Json.Printer
import FetchPlan.Request.Assembly

/-!
# Running a command

A command first comes to a verdict on its request: the defaults are loaded, then the
request, then the plan is assembled. The verdict alone decides the exit code. After that
the plan or the verdict is written; a file is written only for an accepted request, and
whole.
-/

namespace FetchPlan.Command

open Json (Value)

/-- What comes out for a request. -/
inductive Verdict where
  | badDefaults (error : LoadError)
  | badRequest (error : LoadError)
  | rejected (rejection : Rejection)
  | accepted (plan : Plan)
deriving DecidableEq

def Verdict.exitCode : Verdict → Nat
  | .badDefaults e => e.exitCode
  | .badRequest e => e.exitCode
  | .rejected _ => 1
  | .accepted _ => 0

/-- What a program leaves behind, apart from files. -/
structure Output where
  code : Nat
  stdout : String
  stderr : String
deriving DecidableEq

/-! ## The verdict -/

/-- Whether a path stands for the input stream: a dash, which may have slashes and dots
after it that lead nowhere. -/
def namesInput (path : String) : Bool :=
  match Files.names path with
  | [] => false
  | name :: rest => name = "-" ∧ rest.all fun n => n = "" ∨ n = "."

section

variable {m : Type → Type} [Monad m]

def loadPatch (host : Host m) : Option String → m (Except LoadError Defaults.Patch)
  | none => return .ok .empty
  | some path => host.loadDefaults path

def loadRequest (host : Host m) (path : String) : m (Except LoadError Value) :=
  if namesInput path then host.loadInput else host.load path

/-- Comes to the verdict of a command. -/
def judge (host : Host m) (c : Command) : m Verdict := do
  match ← loadPatch host c.defaults with
  | .error e => return .badDefaults e
  | .ok patch =>
    match ← loadRequest host c.request with
    | .error e => return .badRequest e
    | .ok v =>
      match Plan.assemble (.ofValue v) (Defaults.base.apply patch) with
      | .error r => return .rejected r
      | .ok plan => return .accepted plan

end

/-! ## Reports -/

def planText (pretty : Bool) (plan : Plan) : String :=
  if pretty then plan.toJson.pretty else plan.toJson.compact

def line (text : String) : String := text ++ "\n"

/-- What `parse` says on the error stream. -/
def Verdict.complaint : Verdict → String
  | .badDefaults e => line ("Error loading defaults: " ++ e.message)
  | .badRequest e => line ("Error: " ++ e.message)
  | .rejected r => line ("Error: " ++ r.message)
  | .accepted _ => ""

/-- What `check` says in words, to the output and to the error stream. -/
def Verdict.words : Verdict → String × String
  | .badDefaults e => ("", line ("Error: loading defaults: " ++ e.message))
  | .badRequest e => ("", line ("Error: loading params: " ++ e.message))
  | .rejected r => ("", line ("Rejected (" ++ r.status.text ++ "): " ++ r.message))
  | .accepted _ => (line "Valid", "")

def Verdict.toJson : Verdict → Value
  | .badDefaults e =>
    .object [("valid", .bool false), ("error", .string ("loading defaults: " ++ e.message))]
  | .badRequest e =>
    .object [("valid", .bool false), ("error", .string ("loading params: " ++ e.message))]
  | .rejected r =>
    .object [("valid", .bool false), ("status", .ofNat r.status.code),
      ("error", .string r.message)]
  | .accepted _ => .object [("valid", .bool true)]

/-- The log event of a verdict; there is none where no plan was assembled. -/
def Verdict.event : Verdict → Option Event
  | .badDefaults _ | .badRequest _ => none
  | .rejected r => some (.ofRejection r)
  | .accepted plan => some (.ofPlan plan)

def Verdict.log (v : Verdict) (f : LogFilter) : String :=
  match v.event with
  | none => ""
  | some e => if f.shows e then e.line else ""

/-- What `check` leaves behind. -/
def Verdict.report (v : Verdict) (json : Bool) : Output :=
  if json then ⟨v.exitCode, line v.toJson.compact, ""⟩
  else ⟨v.exitCode, v.words.1, v.words.2⟩

section

variable {m : Type → Type} [Monad m]

/-- Writes the plan of an accepted request. -/
def writePlan (host : Host m) (output : Option String) (text : String) : m Output :=
  match output with
  | none => return ⟨0, line text, ""⟩
  | some path => do
    match ← host.write path text.toUTF8 with
    | .ok () => return ⟨0, "", ""⟩
    | .error fault =>
      return ⟨3, "", line ("Error writing to " ++ path ++ ": " ++ fault.text)⟩

/-- Does what a command says with a verdict. -/
def act (host : Host m) (action : Action) (v : Verdict) : m Output :=
  match action, v with
  | .check json, v => return v.report json
  | .parse output pretty, .accepted plan => writePlan host output (planText pretty plan)
  | .parse _ _, v => return ⟨v.exitCode, "", v.complaint⟩

/-- Runs a command. Log lines come ahead of anything else on the error stream. -/
def run (host : Host m) (logSetting : Option String) (c : Command) : m Output := do
  let v ← judge host c
  let out ← act host c.action v
  let log := if c.verbose then v.log (LogFilter.ofSetting logSetting) else ""
  return { out with stderr := log ++ out.stderr }

/-! ## Command lines -/

def versionText : String := line "resource-query 0.1.0"

def helpText : String :=
  line "Normalize resource query parameters"
    ++ line ""
    ++ line "Usage: resource-query [-v] parse PARAMS [--defaults F] [--output F] [--pretty]"
    ++ line "       resource-query [-v] check PARAMS [--defaults F] [--json]"

/-- Does what a command line asks for; none when the command line is refused. -/
def runArguments (host : Host m) (logSetting : Option String) (words : List String) :
    m (Option Output) :=
  match Invocation.ofArguments words with
  | none => return none
  | some .help => return some ⟨0, helpText, ""⟩
  | some .version => return some ⟨0, versionText, ""⟩
  | some (.run c) => do return some (← run host logSetting c)

end

end FetchPlan.Command
