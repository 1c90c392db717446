import FetchPlan.Text.Concealed

/-!
# Quoted text

Text in a message stands between double quotes. Quotes, backslashes and the common
controls are written with a backslash and a letter, any other concealed character by the
number of its code point, and the rest as it is. So a quoted text stays on its line and
shows all that it holds.
-/

namespace FetchPlan.Text

/-- The hexadecimal digits of a number, in lower case. -/
def hexDigits (n : Nat) : List Char := Nat.toDigits 16 n

def quoteChar (c : Char) : List Char :=
  if c = '\x00' then ['\\', '0']
  else if c = '\t' then ['\\', 't']
  else if c = '\n' then ['\\', 'n']
  else if c = '\r' then ['\\', 'r']
  else if c = '"' then ['\\', '"']
  else if c = '\\' then ['\\', '\\']
  else if isConcealed c then ['\\', 'u', '\x7b'] ++ hexDigits c.toNat ++ ['\x7d']
  else [c]

def quoted (s : String) : String :=
  String.ofList ('"' :: s.toList.flatMap quoteChar ++ ['"'])

end FetchPlan.Text
