import FetchPlan.Command.Log
import FetchPlan.Json.Number
import FetchPlan.Text.Blank
import FetchPlan.Text.Letters
import FetchPlan.Text.Split

/-!
# Log filters

A filter says which log events are shown. It is a list of directives, each a level for
some events: those whose target starts with a given text, those that have a given field,
those inside a given span, or all. Of the directives that fit an event one decides, the
most specific: the one with the longest target, of these the one with the greatest name of
a field, where no field is least, and of two alike the later one. Nothing is shown where no
directive fits.

A directive is written as a level, as a target, or in full as `target[span{field}]=level`,
where each part may be left out as long as one is there.
-/

namespace FetchPlan.Command

namespace Level

/-- The level of a number, which may have a plus sign and leading zeros. -/
def ofNumber? (text : List Char) : Option Level :=
  let digits := match text with
    | '+' :: rest => rest
    | _ => text
  if digits ≠ [] ∧ digits.all Char.isDigit then
    all.find? fun l => l.verbosity = Json.digitsValue digits
  else none

/-- The level of a name, in any ASCII case. -/
def ofName? (text : List Char) : Option Level :=
  all.find? fun l => l.name.toList = text.map Char.toUpper

def ofText? (text : List Char) : Option Level := ofNumber? text <|> ofName? text

end Level

/-- A level for some events; for all of them where neither target nor span nor field is
given. -/
structure Directive where
  target : Option String
  span : Option String
  /-- The name of a field and, when only one value of it is meant, that value. -/
  field : Option (String × Option String)
  level : Level
deriving DecidableEq

namespace Directive

/-! ## Reading -/

/-- A place in the text of a directive: what follows it, once without the blanks at the
ends of the text, where marks are looked for, and once as written, where parts are cut. So
in a text with blanks in front each part starts too early, and fits nothing. -/
structure Place where
  marks : List Char
  text : List Char

namespace Place

def start (text : List Char) : Place := ⟨Text.trim text, text⟩

def skip (n : Nat) (p : Place) : Place := ⟨p.marks.drop n, p.text.drop n⟩

/-- The part before the first of some marks, that mark when there is one, and the place
after it. -/
def upTo (stops : List Char) (p : Place) : List Char × Option Char × Place :=
  let n := (p.marks.takeWhile fun c => !stops.contains c).length
  (p.text.take n, p.marks[n]?, p.skip (n + 1))

end Place

/-- The level at the end of a directive. Where nothing is written all is shown. -/
def lastLevel? (p : Place) : Option Level :=
  if p.text = [] then some .trace else Level.ofText? p.text

/-- What follows the brackets: nothing, or a level after an equals sign. -/
def afterBrackets? (p : Place) : Option Level :=
  match p.marks with
  | [] => some .trace
  | '=' :: _ => lastLevel? (p.skip 1)
  | _ => none

def field? (text : List Char) : Option (String × Option String) :=
  if text = [] then none
  else
    let (name, value) := Text.cut '=' text
    some (String.ofList name, value.map String.ofList)

/-- Reads the brackets and what follows them. -/
def brackets? (target : Option String) (p : Place) : Option Directive :=
  match p.upTo [']', '\x7b'] with
  | (span, some ']', p) => do
    return ⟨target, some (String.ofList span), none, ← afterBrackets? p⟩
  | (span, some _, p) =>
    match p.upTo ['\x7d'] with
    | (field, some _, p) => do
      let field ← field? field
      guard (p.marks.head? = some ']')
      let span := if span = [] then none else some (String.ofList span)
      return ⟨target, span, some field, ← afterBrackets? (p.skip 1)⟩
    | (_, none, _) => none
  | (_, none, _) => none

/-- The characters that a target may start with. -/
def startsTarget (c : Char) : Bool :=
  c = '-' || c = ':' || c = '_' || Text.isLetterOrNumber c

/-- Reads a directive. A word that is no level is a target all of whose events are shown. -/
def ofText? (text : List Char) : Option Directive :=
  let p := Place.start text
  match p.marks with
  | [] => none
  | '[' :: _ => brackets? none (p.skip 1)
  | c :: _ =>
    if startsTarget c then
      match p.upTo ['=', '['] with
      | (target, some '=', p) => do
        return ⟨some (String.ofList target), none, none, ← lastLevel? p⟩
      | (target, some _, p) => brackets? (some (String.ofList target)) p
      | (_, none, _) =>
        match Level.ofText? text with
        | some level => some ⟨none, none, none, level⟩
        | none => some ⟨some (String.ofList text), none, none, .trace⟩
    else none

/-! ## Deciding -/

/-- Whether a directive fits an event. All events happen outside spans, and only in spans
are values looked at, so a directive for a span or for one value of a field fits none. -/
def fits (e : Event) (d : Directive) : Bool :=
  d.span.isNone
    && (match d.target with
      | none => true
      | some start => start.toList.isPrefixOf e.target.toList)
    && (match d.field with
      | none => true
      | some (name, none) => e.fields.contains name
      | some (_, some _) => false)

/-- How long the target of a directive is; none is shorter than the empty one. -/
def targetRank (d : Directive) : Nat :=
  match d.target with
  | none => 0
  | some start => start.length + 1

/-- The name of the field of a directive, empty when there is none. -/
def fieldName (d : Directive) : String := (d.field.map (·.1)).getD ""

/-- Whether a directive is more specific than another one. -/
def outranks (d other : Directive) : Bool :=
  decide (other.targetRank < d.targetRank
    ∨ (other.targetRank = d.targetRank ∧ other.fieldName < d.fieldName))

end Directive

abbrev LogFilter := List Directive

namespace LogFilter

/-- Shows everything up to `debug`. -/
def standard : LogFilter := [⟨none, none, none, .debug⟩]

/-- Reads a list of directives, cut at commas. -/
def ofText? (text : String) : Option LogFilter :=
  ((text.toList.splitOn ',').filter (· ≠ [])).mapM Directive.ofText?

/-- The filter of a setting; the standard one when there is none or it cannot be read. -/
def ofSetting (setting : Option String) : LogFilter := (setting.bind ofText?).getD standard

/-- The directive that decides on an event: the most specific one that fits, of equal ones
the last. -/
def decisive (f : LogFilter) (e : Event) : Option Directive :=
  (f.filter (Directive.fits e)).foldl (fun best d =>
    match best with
    | some b => if b.outranks d then some b else some d
    | none => some d) none

def shows (f : LogFilter) (e : Event) : Bool :=
  match f.decisive e with
  | none => false
  | some d => decide (e.level.verbosity ≤ d.level.verbosity)

end LogFilter

end FetchPlan.Command
