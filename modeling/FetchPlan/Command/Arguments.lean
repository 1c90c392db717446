import FetchPlan.Text.Split

/-!
# Arguments

The command line names an action, a request document and some options. Options may stand
before and after the document; `--name=value` and `--name value` mean the same; what
follows `--` is no option. Everything else that is not known, not complete or given twice
is refused, from left to right.
-/

namespace FetchPlan

/-- What is to be done with a request. -/
inductive Command.Action where
  /-- Write its plan, to a file or to the output stream. -/
  | parse (output : Option String) (pretty : Bool)
  /-- Say whether it is accepted. -/
  | check (json : Bool)
deriving DecidableEq

/-- A command: the documents it reads, and what it does with them. -/
structure Command where
  verbose : Bool
  request : String
  defaults : Option String
  action : Command.Action
deriving DecidableEq

namespace Command

inductive Invocation where
  | help
  | version
  | run (command : Command)
deriving DecidableEq

/-! ## Words of an action -/

/-- The words that may follow the name of an action. -/
structure Form where
  flags : List String
  options : List String

/-- The words that have been read. -/
structure Words where
  operand : Option String
  flags : List String
  options : List (String × String)

/-- How the reading of words ends. -/
inductive Reading where
  | help
  | words (words : Words)

namespace Words

def empty : Words := ⟨none, [], []⟩

/-- Adds the operand, which may be given once and not be empty. -/
def addOperand (w : Words) (word : String) : Option Words :=
  if w.operand.isSome ∨ word = "" then none else some { w with operand := some word }

/-- Adds a flag that the form knows and that has not been given. -/
def addFlag (form : Form) (w : Words) (name : String) : Option Words :=
  if name ∈ form.flags ∧ name ∉ w.flags then some { w with flags := name :: w.flags }
  else none

/-- Adds an option that the form knows and that has not been given. Its value may not be
empty. -/
def addOption (form : Form) (w : Words) (name value : String) : Option Words :=
  if name ∈ form.options ∧ (w.options.lookup name).isNone ∧ value ≠ "" then
    some { w with options := (name, value) :: w.options }
  else none

/-- Whether a word has the look of an option. A dash alone has not. -/
def isOption (word : String) : Bool := word.toList.head? = some '-' ∧ word ≠ "-"

def letterFlag (letter : Char) : Option String :=
  if letter = 'v' then some "verbose" else none

/-- Reads the letters after a single dash, up to a request for help. -/
def readLetters (form : Form) (w : Words) : List Char → Option Reading
  | [] => some (.words w)
  | letter :: rest =>
    if letter = 'h' then some .help
    else do
      let name ← letterFlag letter
      let w ← w.addFlag form name
      readLetters form w rest

/-- Reads words up to the end or a request for help. -/
def read (form : Form) (w : Words) : List String → Option Reading
  | [] => some (.words w)
  | word :: rest =>
    if word = "--" then (rest.foldlM addOperand w).map .words
    else if ¬ isOption word then (w.addOperand word).bind (read form · rest)
    else
      match word.toList with
      | '-' :: '-' :: body =>
        match Text.splitFirst '=' (String.ofList body) with
        | (name, some value) => (w.addOption form name value).bind (read form · rest)
        | (name, none) =>
          if name = "help" then some .help
          else if name ∈ form.options then
            match rest with
            | value :: rest =>
              if isOption value then none
              else (w.addOption form name value).bind (read form · rest)
            | [] => none
          else (w.addFlag form name).bind (read form · rest)
      | _ :: letters =>
        match readLetters form w letters with
        | some (.words w) => read form w rest
        | other => other
      | [] => none

end Words

/-! ## Actions -/

def parseForm : Form := ⟨["verbose", "pretty"], ["defaults", "output"]⟩

def checkForm : Form := ⟨["verbose", "json"], ["defaults"]⟩

/-- The invocation that an action and its words make up. The operand must be there. -/
def Reading.invocation (verbose : Bool) (action : Words → Action) :
    Reading → Option Invocation
  | .help => some .help
  | .words w => w.operand.map fun request => .run {
      verbose := verbose || w.flags.contains "verbose"
      request
      defaults := w.options.lookup "defaults"
      action := action w }

def readParse (verbose : Bool) (words : List String) : Option Invocation :=
  (Words.empty.read parseForm words).bind <| Reading.invocation verbose fun w =>
    .parse (w.options.lookup "output") (w.flags.contains "pretty")

def readCheck (verbose : Bool) (words : List String) : Option Invocation :=
  (Words.empty.read checkForm words).bind <| Reading.invocation verbose fun w =>
    .check (w.flags.contains "json")

/-- How the letters before an action end. -/
inductive Leading where
  | asks (invocation : Invocation)
  | verbose (verbose : Bool)

/-- Reads the letters after a single dash before the action. -/
def readLeading (verbose : Bool) : List Char → Option Leading
  | [] => some (.verbose verbose)
  | letter :: rest =>
    if letter = 'h' then some (.asks .help)
    else if letter = 'V' then some (.asks .version)
    else if letter = 'v' ∧ ¬ verbose then readLeading true rest
    else none

/-- Whether the words after `help` name at most one action. -/
def namesAction (words : List String) : Bool :=
  words = [] ∨ words = ["parse"] ∨ words = ["check"] ∨ words = ["help"]

/-- Reads a command line whose leading words have set `verbose`. -/
def Invocation.read (verbose : Bool) : List String → Option Invocation
  | [] => none
  | word :: rest =>
    if word = "parse" then readParse verbose rest
    else if word = "check" then readCheck verbose rest
    else if word = "help" then if namesAction rest then some .help else none
    else if word = "--help" then some .help
    else if word = "--version" then some .version
    else if word = "--verbose" then if verbose then none else Invocation.read true rest
    else if ¬ Words.isOption word then none
    else
      match readLeading verbose (word.toList.drop 1) with
      | some (.asks invocation) => some invocation
      | some (.verbose verbose) => Invocation.read verbose rest
      | none => none

/-- What a command line asks for, unless it is refused. -/
def Invocation.ofArguments (words : List String) : Option Invocation :=
  Invocation.read false words

end Command

end FetchPlan
