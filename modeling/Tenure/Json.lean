import Tenure.Json.Tree

/-!
# JSON values

A value and its compact text. Text is written through tokens: `Json.tokens` lists them,
`Token.spell` writes each, and nothing stands between them.
-/
namespace Tenure

open Json (Numeral Token Tree)

inductive Json where
  | null
  | bool (b : Bool)
  | number (n : Numeral)
  | text (s : String)
  | array (items : List Json)
  /-- The members in the order in which they are written. -/
  | object (members : List (String × Json))

namespace Json

def nat (n : Nat) : Json := .number (.ofNat n)

def int (n : Int) : Json := .number (.ofInt n)

/-- `null` for nothing. -/
def optional {α : Type} (f : α → Json) : Option α → Json
  | some a => f a
  | none => .null

/-! ## Writing -/

mutual
def tokens : Json → List Token
  | null => [.null]
  | bool b => [.bool b]
  | number n => [.number n]
  | text s => [.text (some s)]
  | array items => .openArray :: itemTokens items ++ [.closeArray]
  | object members => .openObject :: memberTokens members ++ [.closeObject]

def itemTokens : List Json → List Token
  | [] => []
  | [item] => item.tokens
  | item :: rest => item.tokens ++ .comma :: itemTokens rest

def memberTokens : List (String × Json) → List Token
  | [] => []
  | [(key, value)] => .text (some key) :: .colon :: value.tokens
  | (key, value) :: rest =>
    .text (some key) :: .colon :: value.tokens ++ .comma :: memberTokens rest
end

def render (j : Json) : String := .ofList (j.tokens.flatMap Token.spell)

def encode (j : Json) : List UInt8 := j.render.toUTF8.toList

/-! ## Reading -/

mutual
/-- The value as a tree. -/
def toTree : Json → Tree
  | null => .null
  | bool b => .bool b
  | number n => .number n
  | text s => .text (some s)
  | array items => .array (itemTrees items) true
  | object members => .object (memberTrees members) .closed

def itemTrees : List Json → List Tree
  | [] => []
  | item :: rest => item.toTree :: itemTrees rest

def memberTrees : List (String × Json) → List (Option String × Tree)
  | [] => []
  | (key, value) :: rest => (some key, value.toTree) :: memberTrees rest
end

mutual
/-- The value of a tree that is complete and whose texts all stand for strings. -/
def ofTree? : Tree → Option Json
  | .null => some null
  | .bool b => some (bool b)
  | .number n => some (number n)
  | .text s => s.map text
  | .array items closed => if closed then (ofItems? items).map array else none
  | .object members stop =>
    if stop = .closed then (ofMembers? members).map object else none
  | .broken => none

def ofItems? : List Tree → Option (List Json)
  | [] => some []
  | t :: rest =>
    match ofTree? t, ofItems? rest with
    | some item, some items => some (item :: items)
    | _, _ => none

def ofMembers? : List (Option String × Tree) → Option (List (String × Json))
  | [] => some []
  | (key, t) :: rest =>
    match key, ofTree? t, ofMembers? rest with
    | some key, some value, some members => some ((key, value) :: members)
    | _, _, _ => none
end

def ofBytes? (bytes : List UInt8) : Option Json :=
  let document := Tree.ofBytes bytes
  if document.trailing then none else ofTree? document.tree

def ofString? (s : String) : Option Json := ofBytes? s.toUTF8.toList

/-- The value of a member; of a key that is there more than once, the last. -/
def get? (j : Json) (key : String) : Option Json :=
  match j with
  | object members => (members.reverse.find? fun m => m.1 == key).map Prod.snd
  | _ => none

/-! ## Objects as maps -/

/-- Puts a member into members that are sorted by their keys, in place of one of the same key. -/
def putMember (key : String) (value : Json) : List (String × Json) → List (String × Json)
  | [] => [(key, value)]
  | member :: rest =>
    if key < member.1 then (key, value) :: member :: rest
    else if key = member.1 then (key, value) :: rest
    else member :: putMember key value rest

mutual
/-- The value with each object sorted by its keys; of a repeated key, the last value counts. -/
def sorted : Json → Json
  | array items => array (sortedItems items)
  | object members => object (sortedMembers [] members)
  | j => j

def sortedItems : List Json → List Json
  | [] => []
  | item :: rest => item.sorted :: sortedItems rest

def sortedMembers (done : List (String × Json)) : List (String × Json) → List (String × Json)
  | [] => done
  | (key, value) :: rest => sortedMembers (putMember key value.sorted done) rest
end

end Json
end Tenure
