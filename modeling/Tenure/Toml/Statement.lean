import Tenure.Toml.Text

/-!
# TOML statements

A document is a row of statements: the header of a table, the header of an element of an
array of tables, or a key with its value. Arrays and inline tables nest to a bounded depth,
and dotted keys have a bounded number of parts.
-/
namespace Tenure.Toml

inductive Statement where
  | table (path : List String)
  | element (path : List String)
  /-- A value under a dotted key: the parts before the last, and the last. -/
  | pair (path : List String) (key : String) (value : Value)

namespace Statement

/-- Arrays and inline tables nest less deep than this, and keys have fewer parts. -/
def depthLimit : Nat := 80

/-! ## Space -/

def skipBlanks (s : List Char) : List Char := s.dropWhile Text.isBlank

def skipComment : List Char → List Char
  | '#' :: rest => rest.dropWhile Text.isPlain
  | s => s

/-- Passes over the end of a line, or stays at the end of the document. -/
def lineEnd? : List Char → Option (List Char)
  | [] => some []
  | '\n' :: rest => some rest
  | '\x0d' :: '\n' :: rest => some rest
  | _ => none

/-- Passes over blanks and a comment up to the next line. -/
def finishLine? (s : List Char) : Option (List Char) := lineEnd? (skipComment (skipBlanks s))

/-- Passes over blanks, comments and line ends. -/
def skipSpace : Nat → List Char → List Char
  | 0, s => s
  | fuel + 1, s =>
    let left := skipComment (Text.skipLines s)
    if left.length < s.length then skipSpace fuel left else s

/-! ## Keys -/

def isBare (c : Char) : Bool := c.isAlphanum || c = '-' || c = '_'

def simpleKey? : List Char → Option (String × List Char)
  | '"' :: rest => (Text.basic? rest).map fun (text, rest) => (.ofList text, rest)
  | '\'' :: rest => (Text.literal? rest).map fun (text, rest) => (.ofList text, rest)
  | s =>
    let bare := s.takeWhile isBare
    if bare = [] then none else some (.ofList bare, s.dropWhile isBare)

/-- The parts of a dotted key, with blanks around each of them. -/
def key? : Nat → List Char → Option (List String × List Char)
  | 0, _ => none
  | fuel + 1, s => do
    let (part, rest) ← simpleKey? (skipBlanks s)
    match skipBlanks rest with
    | '.' :: rest => do
      let (parts, rest) ← key? fuel rest
      return (part :: parts, rest)
    | rest => return ([part], rest)

/-- A key of a statement or of an inline table. -/
def path? (s : List Char) : Option (List String × List Char) := key? (depthLimit - 1) s

/-! ## Values -/

/-- The members of an inline table; each dotted key makes tables of its own, which later keys
may add to. -/
inductive Inline where
  | leaf (value : Value)
  | table (members : List (String × Inline))

def replace {α : Type} (key : String) (a : α) : List (String × α) → List (String × α)
  | [] => []
  | member :: rest => if member.1 = key then (key, a) :: rest else member :: replace key a rest

def Inline.add (key : String) (value : Value) :
    List String → List (String × Inline) → Option (List (String × Inline))
  | [], members =>
    match members.lookup key with
    | none => some (members ++ [(key, .leaf value)])
    | some _ => none
  | part :: path, members =>
    match members.lookup part with
    | none => (add key value path []).map fun inner => members ++ [(part, .table inner)]
    | some (.table inner) =>
      (add key value path inner).map fun inner => replace part (.table inner) members
    | some (.leaf _) => none

mutual
def Inline.toValue : Inline → Value
  | .leaf value => value
  | .table members => .table (toMembers members)

def Inline.toMembers : List (String × Inline) → List (String × Value)
  | [] => []
  | (key, inline) :: rest => (key, inline.toValue) :: toMembers rest
end

def splitLast? : List String → Option (List String × String)
  | [] => none
  | [key] => some ([], key)
  | part :: rest => (splitLast? rest).map fun (path, key) => (part :: path, key)

def scalar? (s : List Char) : Option (Value × List Char) :=
  match s with
  | 't' :: 'r' :: 'u' :: 'e' :: rest => some (.bool true, rest)
  | 'f' :: 'a' :: 'l' :: 's' :: 'e' :: rest => some (.bool false, rest)
  | _ => Moment.read? s <|> Number.decimal? s <|> Number.special? s <|> Number.integer? s

mutual
/-- A value that stands inside `depth` others. The fuel covers the length of the text. -/
def value? (depth : Nat) : Nat → List Char → Option (Value × List Char)
  | 0, _ => none
  | fuel + 1, s =>
    match s with
    | '"' :: _ | '\'' :: _ => (Text.read? s).map fun (text, rest) => (.text (.ofList text), rest)
    | '[' :: rest =>
      if depth + 1 < depthLimit then
        (items? (depth + 1) fuel rest).map fun (items, rest) => (.array items, rest)
      else none
    | '\x7b' :: rest =>
      if depth + 1 < depthLimit then
        match skipBlanks rest with
        | '\x7d' :: rest => some (.table [], rest)
        | rest =>
          (members? (depth + 1) fuel [] rest).map fun (members, rest) =>
            (.table (Inline.toMembers members), rest)
      else none
    | s => scalar? s

/-- The items of an array from here on, up to its end. -/
def items? (depth : Nat) : Nat → List Char → Option (List Value × List Char)
  | 0, _ => none
  | fuel + 1, s =>
    match skipSpace fuel s with
    | ']' :: rest => some ([], rest)
    | s => do
      let (item, rest) ← value? depth fuel s
      match skipSpace fuel rest with
      | ',' :: rest => do
        let (items, rest) ← items? depth fuel rest
        return (item :: items, rest)
      | ']' :: rest => return ([item], rest)
      | _ => none

/-- The members of an inline table from here on, up to its end. -/
def members? (depth : Nat) :
    Nat → List (String × Inline) → List Char → Option (List (String × Inline) × List Char)
  | 0, _, _ => none
  | fuel + 1, members, s => do
    let (parts, rest) ← path? s
    let (path, key) ← splitLast? parts
    let rest ← Moment.mark? '=' rest
    let (value, rest) ← value? depth fuel (skipBlanks rest)
    let members ← Inline.add key value path members
    match skipBlanks rest with
    | ',' :: rest => members? depth fuel members rest
    | '\x7d' :: rest => return (members, rest)
    | _ => none
end

/-! ## Statements -/

/-- More fuel than the readers of a text of this length can use. -/
def fuelFor (s : List Char) : Nat := 4 * s.length + 4

/-- Passes over the end of a header. -/
def close? (brackets : Nat) (s : List Char) : Option (List Char) :=
  if s.take brackets = List.replicate brackets ']' then some (s.drop brackets) else none

def header? : List Char → Option (Statement × List Char)
  | '[' :: '[' :: rest => do
    let (path, rest) ← path? rest
    return (.element path, ← close? 2 rest)
  | '[' :: rest => do
    let (path, rest) ← path? rest
    return (.table path, ← close? 1 rest)
  | _ => none

def pair? (s : List Char) : Option (Statement × List Char) := do
  let (parts, rest) ← path? s
  let (path, key) ← splitLast? parts
  let rest ← Moment.mark? '=' rest
  let (value, rest) ← value? 0 (fuelFor rest) (skipBlanks rest)
  return (.pair path key value, rest)

/-- A statement, if there is one on the line. -/
def statement? (s : List Char) : Option (Option Statement × List Char) :=
  match s with
  | [] | '#' :: _ | '\n' :: _ | '\x0d' :: _ => some (none, s)
  | '[' :: _ => (header? s).map fun (statement, rest) => (some statement, rest)
  | s => (pair? s).map fun (statement, rest) => (some statement, rest)

def lines? : Nat → List Char → Option (List Statement)
  | 0, _ => none
  | fuel + 1, s =>
    if s = [] then some []
    else do
      let (statement, rest) ← statement? (skipBlanks s)
      let rest ← finishLine? rest
      let statements ← lines? fuel rest
      return statement.toList ++ statements

/-- Leaves out the mark that a document may begin with. -/
def dropByteOrderMark : List Char → List Char
  | '\uFEFF' :: rest => rest
  | s => s

/-- The statements of a document. -/
def read? (s : List Char) : Option (List Statement) := lines? (s.length + 1) (dropByteOrderMark s)

end Statement
end Tenure.Toml
