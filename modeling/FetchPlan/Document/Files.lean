/-!
# Files

A store of files and directories, and the rules by which a path names one of them. A path
is followed name by name from the working directory, or from the root when it starts with
a slash; every name but the last must be that of a directory, and the last one too when a
slash follows it.
-/

namespace FetchPlan

inductive FileFault where
  | missing
  | notDirectory
  | isDirectory
  | nameTooLong
  /-- A reason given by the system, in its words. -/
  | other (text : String)
deriving DecidableEq

namespace FileFault

def text : FileFault → String
  | .missing => "No such file or directory (os error 2)"
  | .notDirectory => "Not a directory (os error 20)"
  | .isDirectory => "Is a directory (os error 21)"
  | .nameTooLong => "File name too long (os error 36)"
  | .other text => text

/-- Whether the fault means that the path names nothing at all. -/
def namesNothing : FileFault → Bool
  | .missing | .notDirectory | .nameTooLong => true
  | .isDirectory | .other _ => false

end FileFault

/-- What a path may name. -/
inductive Entry where
  | file (content : ByteArray)
  | directory

/-- The names that lead from the root to an entry. -/
abbrev Location := List String

/-- A store of files, and the directory in which paths start. -/
structure Files where
  entries : List (Location × Entry)
  working : Location

namespace Files

/-- Names are at most this many bytes long. -/
def longestName : Nat := 255

/-- Paths are shorter than this many bytes. -/
def pathBound : Nat := 4096

/-- The entry at a location; the root is always a directory. -/
def entry? (f : Files) (l : Location) : Option Entry :=
  if l = [] then some .directory else f.entries.lookup l

/-- Whether a location is that of a directory. -/
def checkDirectory (f : Files) (l : Location) : Except FileFault Unit :=
  match f.entry? l with
  | some .directory => .ok ()
  | some (.file _) => .error .notDirectory
  | none => .error .missing

/-- The location of a name that stands in the directory `l`. -/
def child (l : Location) (name : String) : Except FileFault Location :=
  if longestName < name.utf8ByteSize then .error .nameTooLong else .ok (l ++ [name])

/-- Follows one name of a path. -/
def enter (f : Files) (l : Location) (name : String) : Except FileFault Location := do
  f.checkDirectory l
  if name = "" ∨ name = "." then return l
  else if name = ".." then return l.dropLast
  else
    let l ← child l name
    if (f.entry? l).isSome then return l else throw .missing

/-- The names of a path, cut at its slashes. -/
def names (path : String) : List String := (path.toList.splitOn '/').map String.ofList

/-- Where the path starts. -/
def start (f : Files) (path : String) : Location :=
  if path.toList.head? = some '/' then [] else f.working

/-- Refuses a path that is empty or too long. -/
def checkPath (path : String) : Except FileFault Unit :=
  if path = "" then .error .missing
  else if pathBound ≤ path.utf8ByteSize then .error .nameTooLong
  else .ok ()

/-- The location that a path names. -/
def locate (f : Files) (path : String) : Except FileFault Location := do
  checkPath path
  (names path).foldlM f.enter (f.start path)

/-- The content of the file that a path names. -/
def read (f : Files) (path : String) : Except FileFault ByteArray := do
  let l ← f.locate path
  match f.entry? l with
  | some (.file content) => return content
  | some .directory => throw .isDirectory
  | none => throw .missing

/-- Puts an entry at a location, in place of the one that was there. -/
def put (f : Files) (l : Location) (e : Entry) : Files :=
  { f with entries := (l, e) :: f.entries.filter (·.1 ≠ l) }

/-- The location of the file that writing to a path would create or replace. A path that
ends in a slash or in a dot can only be that of a directory. -/
def target (f : Files) (path : String) : Except FileFault Location := do
  checkPath path
  let parts := names path
  let kept := (parts.reverse.dropWhile (· = "")).reverse
  match kept.getLast? with
  | none => throw .isDirectory
  | some last =>
    let parent ← kept.dropLast.foldlM f.enter (f.start path)
    f.checkDirectory parent
    if kept.length < parts.length ∨ last = "." ∨ last = ".." then throw .isDirectory
    let l ← child parent last
    match f.entry? l with
    | some .directory => throw .isDirectory
    | _ => return l

/-- Writes a file whole, or not at all. -/
def write (f : Files) (path : String) (content : ByteArray) : Except FileFault Files := do
  let l ← f.target path
  return f.put l (.file content)

/-! ## Building a store -/

/-- An empty working directory below the root. -/
def fresh : Files := ⟨[(["work"], .directory)], ["work"]⟩

/-- Makes the directories on the way to a location that are not there yet. -/
def makeDirectories (f : Files) (l : Location) : List String → Files
  | [] => f
  | name :: rest =>
    let l := l ++ [name]
    let f := if (f.entry? l).isSome then f else f.put l .directory
    f.makeDirectories l rest

/-- Makes a directory in the working directory. -/
def addDirectory (f : Files) (path : String) : Files :=
  f.makeDirectories f.working ((names path).filter (· ≠ ""))

/-- Makes a file in the working directory, with the directories on its way. -/
def addFile (f : Files) (path : String) (content : ByteArray) : Files :=
  let parts := (names path).filter (· ≠ "")
  (f.makeDirectories f.working parts.dropLast).put (f.working ++ parts) (.file content)

end Files

end FetchPlan
