import FetchPlan.Defaults.Document
import FetchPlan.Document.Files
import FetchPlan.Json.Tree

/-!
# Loading documents

Requests and defaults are JSON documents in UTF-8, read from named files or from an input
stream. `Host` is what a program needs of its surroundings for that; a store of files with
an input is one, and so is a real system. Reading may fail, of a file and of the stream
alike.
-/

namespace FetchPlan

open Json (Value)

inductive LoadError where
  | notFound (path : String)
  | unreadable (path reason : String)
  | notJson (reason : String)
  | refused (error : Defaults.Patch.Error)
deriving DecidableEq

namespace LoadError

def message : LoadError → String
  | .notFound path => "file not found: " ++ path
  | .unreadable path reason => "cannot read " ++ path ++ ": " ++ reason
  | .notJson reason => "invalid JSON: " ++ reason
  | .refused error => error.message

/-- The exit code of a program that cannot load a document. -/
def exitCode : LoadError → Nat
  | .notFound _ | .unreadable _ _ => 3
  | .notJson _ | .refused _ => 2

/-- The failure to load from a path that cannot be read. -/
def ofFault (path : String) (fault : FileFault) : LoadError :=
  if fault.namesNothing then .notFound path else .unreadable path fault.text

end LoadError

/-! ## Texts and bytes -/

namespace Document

section

-- what is wrong with a text that is not JSON, in the words of whoever reads JSON
variable (explain : String → String)

def ofText (text : String) : Except LoadError Value :=
  match Value.ofText? Json.nestingLimit text with
  | some v => .ok v
  | none => .error (.notJson (explain text))

/-- The value of a JSON text in UTF-8, read from `path`. -/
def ofBytes (path : String) (bytes : ByteArray) : Except LoadError Value :=
  match String.fromUTF8? bytes with
  | some text => ofText explain text
  | none => .error (.unreadable path "stream did not contain valid UTF-8")

end

/-- The name of the input stream in messages. -/
def inputName : String := "<stdin>"

end Document

/-! ## Surroundings -/

/-- What a program finds around it: named files and an input stream, which it may fail to
read and write, and a reader of JSON, which says what is wrong with a text. -/
structure Host (m : Type → Type) where
  read : String → m (Except FileFault ByteArray)
  input : m (Except FileFault ByteArray)
  write : String → ByteArray → m (Except FileFault Unit)
  explain : String → String

namespace Host

variable {m : Type → Type} [Monad m]

def load (host : Host m) (path : String) : m (Except LoadError Value) := do
  match ← host.read path with
  | .ok bytes => return Document.ofBytes host.explain path bytes
  | .error fault => return .error (.ofFault path fault)

/-- Loads from the input stream, which is there even when it cannot be read. -/
def loadInput (host : Host m) : m (Except LoadError Value) := do
  match ← host.input with
  | .ok bytes => return Document.ofBytes host.explain Document.inputName bytes
  | .error fault => return .error (.unreadable Document.inputName fault.text)

def loadDefaults (host : Host m) (path : String) : m (Except LoadError Defaults.Patch) := do
  match ← host.load path with
  | .ok v => return (Defaults.Patch.ofValue v).mapError .refused
  | .error e => return .error e

end Host

/-- A store of files as surroundings, with what the input stream gives. -/
def Files.host (input : Except FileFault ByteArray) (explain : String → String) :
    Host (StateM Files) where
  read path := do return (← get).read path
  input := return input
  write path content := do
    match (← get).write path content with
    | .ok files =>
      set files
      return .ok ()
    | .error fault => return .error fault
  explain := explain

end FetchPlan
