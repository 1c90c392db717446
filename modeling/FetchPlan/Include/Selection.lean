import FetchPlan.Include.Modes
import FetchPlan.Include.Token

/-!
# Selected includes

A list of tokens selects directives, each kept once and in the order of its first token,
and a mode for each head. A token without a mode of its own has the default mode, which
may not be empty then.
-/

namespace FetchPlan.Include

/-- What a list of tokens selects. -/
structure Selection where
  directives : List String
  modes : Modes
deriving DecidableEq

/-- A token that relies on the default mode when there is none. -/
structure MissingMode where
  token : String
deriving DecidableEq

/-- The mode of a token: its own, else the default one. -/
def Token.modeOr (t : Token) (fallback : String) : Option String :=
  match t.mode with
  | some mode => some mode
  | none => if fallback = "" then none else some fallback

namespace Selection

def empty : Selection := ⟨[], .empty⟩

def add (fallback : String) (s : Selection) (text : String) : Except MissingMode Selection :=
  let token := Token.ofString text
  match token.modeOr fallback with
  | none => .error ⟨text⟩
  | some mode => .ok {
      directives :=
        if token.directive ∈ s.directives then s.directives
        else s.directives ++ [token.directive]
      modes := s.modes.insert token.head mode }

/-- What a list of tokens selects, or the first token without a mode. -/
def ofTokens (fallback : String) (tokens : List String) : Except MissingMode Selection :=
  tokens.foldlM (add fallback) empty

end Selection

end FetchPlan.Include
