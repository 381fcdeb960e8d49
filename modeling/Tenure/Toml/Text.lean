import Tenure.Toml.Number

/-!
# TOML texts

Four kinds of text: between double quotes, with escapes, or between single quotes, as they
stand; and each on one line, or between three quotes, on any number of lines. Line ends
inside a text are read as line feeds.
-/
namespace Tenure.Toml.Text

/-- The characters that may stand in a text or a comment: all but the control characters other
than the tab. -/
def isPlain (c : Char) : Bool := c = '\t' || (0x20 ≤ c.toNat && c.toNat != 0x7F)

/-- The character of a code point given by hexadecimal digits. -/
def ofHex? (digits : List Char) : Option Char :=
  if digits.all Number.isHexDigit then
    let n := Number.valueIn 16 digits
    if n.isValidChar then some (.ofNat n) else none
  else
    none

def simpleEscape? : Char → Option Char
  | 'b' => some '\x08'
  | 'f' => some '\x0c'
  | 'n' => some '\n'
  | 'r' => some '\r'
  | 't' => some '\t'
  | '\\' => some '\\'
  | '"' => some '"'
  | _ => none

/-- The character of an escape, behind its backslash, and the rest. -/
def escape? (s : List Char) : Option (Char × { r : List Char // r.length < s.length }) :=
  match s with
  | 'u' :: rest =>
    if h : 4 ≤ rest.length then
      (ofHex? (rest.take 4)).map fun c => (c, ⟨rest.drop 4, by grind⟩)
    else none
  | 'U' :: rest =>
    if h : 8 ≤ rest.length then
      (ofHex? (rest.take 8)).map fun c => (c, ⟨rest.drop 8, by grind⟩)
    else none
  | c :: rest => (simpleEscape? c).map fun c => (c, ⟨rest, by simp⟩)
  | [] => none

def prepend (c : Char) : Option (List Char × List Char) → Option (List Char × List Char) :=
  Option.map fun (text, rest) => (c :: text, rest)

/-! ## On one line -/

/-- The rest of a text behind its double quote. -/
def basic? : List Char → Option (List Char × List Char)
  | [] => none
  | '"' :: rest => some ([], rest)
  | '\\' :: rest =>
    match escape? rest with
    | some (c, left) =>
      have := left.property
      prepend c (basic? left.val)
    | none => none
  | c :: rest => if isPlain c then prepend c (basic? rest) else none
termination_by s => s.length

/-- The rest of a text behind its single quote. -/
def literal? : List Char → Option (List Char × List Char)
  | [] => none
  | '\'' :: rest => some ([], rest)
  | c :: rest => if isPlain c then prepend c (literal? rest) else none

/-! ## On several lines -/

/-- Leaves out a line end at the beginning of a text. -/
def dropLineEnd : List Char → List Char
  | '\n' :: rest => rest
  | '\x0d' :: '\n' :: rest => rest
  | s => s

def isBlank (c : Char) : Bool := c = ' ' || c = '\t'

/-- Passes over blanks and line ends. -/
def skipLines : List Char → List Char
  | '\x0d' :: '\n' :: rest => skipLines rest
  | c :: rest => if isBlank c || c = '\n' then skipLines rest else c :: rest
  | [] => []

theorem length_skipLines_le (s : List Char) : (skipLines s).length ≤ s.length := by
  fun_induction skipLines s <;> grind

/-- Whether only blanks stand before the next line end. -/
def endsLine (s : List Char) : Bool :=
  match s.dropWhile isBlank with
  | '\n' :: _ => true
  | '\x0d' :: '\n' :: _ => true
  | _ => false

/-- The rest of a text behind its three double quotes. Up to two more may stand before the
closing three. A backslash at the end of a line joins it to the next text. -/
def basicLines? : List Char → Option (List Char × List Char)
  | '"' :: '"' :: '"' :: '"' :: '"' :: rest => some (['"', '"'], rest)
  | '"' :: '"' :: '"' :: '"' :: rest => some (['"'], rest)
  | '"' :: '"' :: '"' :: rest => some ([], rest)
  | '\\' :: rest =>
    if endsLine rest then
      have := length_skipLines_le rest
      basicLines? (skipLines rest)
    else match escape? rest with
      | some (c, left) =>
        have := left.property
        prepend c (basicLines? left.val)
      | none => none
  | '\n' :: rest => prepend '\n' (basicLines? rest)
  | '\x0d' :: '\n' :: rest => prepend '\n' (basicLines? rest)
  | c :: rest => if isPlain c then prepend c (basicLines? rest) else none
  | [] => none
termination_by s => s.length

/-- The rest of a text behind its three single quotes. -/
def literalLines? : List Char → Option (List Char × List Char)
  | '\'' :: '\'' :: '\'' :: '\'' :: '\'' :: rest => some (['\'', '\''], rest)
  | '\'' :: '\'' :: '\'' :: '\'' :: rest => some (['\''], rest)
  | '\'' :: '\'' :: '\'' :: rest => some ([], rest)
  | '\n' :: rest => prepend '\n' (literalLines? rest)
  | '\x0d' :: '\n' :: rest => prepend '\n' (literalLines? rest)
  | c :: rest => if isPlain c then prepend c (literalLines? rest) else none
  | [] => none

/-- A text of any kind. -/
def read? : List Char → Option (List Char × List Char)
  | '"' :: '"' :: '"' :: rest => basicLines? (dropLineEnd rest)
  | '"' :: rest => basic? rest
  | '\'' :: '\'' :: '\'' :: rest => literalLines? (dropLineEnd rest)
  | '\'' :: rest => literal? rest
  | _ => none

end Tenure.Toml.Text
