import FetchPlan.Command.Run

/-!
# The program

The command line against the real system.
-/

namespace FetchPlan

/-- The number of a system error; some calls report it negated. -/
def errorNumber (code : UInt32) : Nat := min code.toNat (0 - code).toNat

/-- The fault that a system error stands for. -/
def faultOf (e : IO.Error) : FileFault :=
  match e with
  | .noFileOrDirectory _ _ _ => .missing
  | .inappropriateType _ code _ =>
    if errorNumber code = 21 then .isDirectory else .notDirectory
  | .permissionDenied _ code _ =>
    .other ("Permission denied (os error " ++ toString (errorNumber code) ++ ")")
  | .invalidArgument _ code details =>
    if errorNumber code = 36 then .nameTooLong
    else .other (details ++ " (os error " ++ toString (errorNumber code) ++ ")")
  | e => .other (toString e)

def attempt {α : Type} (action : IO α) : IO (Except FileFault α) := do
  match ← action.toBaseIO with
  | .ok x => return .ok x
  | .error e => return .error (faultOf e)

/-- The real system as surroundings. It does not say where a text fails to be JSON. -/
def systemHost : Host IO where
  read path := attempt (IO.FS.readBinFile path)
  input := attempt (do (← IO.getStdin).readBinToEnd)
  write path content := attempt (IO.FS.writeBinFile path content)
  explain _ := "syntax error"

/-- Runs a command line and answers its exit code. -/
def runProgram (words : List String) : IO UInt32 := do
  match ← Command.runArguments systemHost (← IO.getEnv "RUST_LOG") words with
  | none =>
    IO.eprint ("error: invalid arguments\n\n" ++ Command.helpText)
    return 2
  | some out =>
    IO.eprint out.stderr
    IO.print out.stdout
    return UInt32.ofNat out.code

end FetchPlan

def main (words : List String) : IO UInt32 := FetchPlan.runProgram words
