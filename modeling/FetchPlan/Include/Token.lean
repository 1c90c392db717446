import FetchPlan.Text.Split

/-!
# Include tokens

An include token names a relation, and may add a mode and fields:
`relation[,mode][:fields]`. The fields start after the first `:`; before it, the mode
starts after the first `,`. Every text is a token.
-/

namespace FetchPlan.Include

open FetchPlan.Text

structure Token where
  relation : String
  mode : Option String
  fields : Option String
deriving DecidableEq

namespace Token

/-- The parts of a token's text. -/
def ofString (text : String) : Token :=
  let (head, fields) := splitFirst ':' text
  let (relation, mode) := splitFirst ',' head
  ⟨relation, mode, fields⟩

/-- A part, followed by a separator and another part if there is one. -/
def withPart (first separator : String) (second : Option String) : String :=
  match second with
  | none => first
  | some second => first ++ separator ++ second

/-- The token before its fields: the key under which its mode is kept. -/
def head (t : Token) : String := withPart t.relation "," t.mode

def text (t : Token) : String := withPart t.head ":" t.fields

/-- What the token asks to fetch: the relation and its fields. -/
def directive (t : Token) : String := withPart t.relation ":" t.fields

end Token

end FetchPlan.Include
