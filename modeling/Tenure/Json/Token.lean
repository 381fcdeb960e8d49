import Tenure.Json.Numeral
import Tenure.Text.Hex

/-!
# Tokens of a document

A document is a row of tokens with blanks between them. `Token.spell` writes a token; texts
escape the double quote, the backslash and the control characters, and nothing else.
-/
namespace Tenure.Json

inductive Token where
  | openArray
  | closeArray
  | openObject
  | closeObject
  | comma
  | colon
  | null
  | bool (b : Bool)
  | number (n : Numeral)
  /-- A text; `none` if it is complete but stands for no string. -/
  | text (s : Option String)
  /-- No token: what follows cannot be read. -/
  | bad
  deriving DecidableEq

def escapeChar (c : Char) : List Char :=
  if c = '"' then ['\\', '"']
  else if c = '\\' then ['\\', '\\']
  else if c = '\x08' then ['\\', 'b']
  else if c = '\x0c' then ['\\', 'f']
  else if c = '\n' then ['\\', 'n']
  else if c = '\r' then ['\\', 'r']
  else if c = '\t' then ['\\', 't']
  else if c.toNat < 0x20 then ['\\', 'u', '0', '0'] ++ Text.twoHexDigits c.toNat
  else [c]

def spellText (s : String) : List Char := '"' :: s.toList.flatMap escapeChar ++ ['"']

def Token.spell : Token → List Char
  | openArray => ['[']
  | closeArray => [']']
  | openObject => ['\x7b']
  | closeObject => ['\x7d']
  | comma => [',']
  | colon => [':']
  | null => ['n', 'u', 'l', 'l']
  | bool true => ['t', 'r', 'u', 'e']
  | bool false => ['f', 'a', 'l', 's', 'e']
  | number n => n.spell
  | text (some s) => spellText s
  | text none => []
  | bad => []

end Tenure.Json
