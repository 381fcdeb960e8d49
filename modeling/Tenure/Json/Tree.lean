import Tenure.Json.Lexer

/-!
# The shape of a document

`Tree.read` arranges tokens into a tree and never fails: where the tokens break off or make no
sense, the tree says so at that place and keeps all that stands before it. A reader of the tree
that goes through it in order therefore meets the first problem of the document first.
-/
namespace Tenure.Json

/-- How the members of an object end. -/
inductive Stop where
  | closed
  /-- The next key is no text but this token. -/
  | stray (token : Token)
  | cut
  deriving DecidableEq

inductive Tree where
  | null
  | bool (b : Bool)
  | number (n : Numeral)
  | text (s : Option String)
  /-- An array that is not closed ends with an item that is `broken`. -/
  | array (items : List Tree) (closed : Bool)
  | object (members : List (Option String × Tree)) (stop : Stop)
  /-- There is no value here. -/
  | broken

namespace Tree

/-! ## Well-formed trees -/

mutual
/-- Whether a tree is complete, in every part of it. -/
def isWhole : Tree → Bool
  | null | bool _ | number _ | text _ => true
  | array items closed => areWhole items && closed
  | object members stop => haveWholeValues members && stop = .closed
  | broken => false

def areWhole : List Tree → Bool
  | [] => true
  | t :: rest => t.isWhole && areWhole rest

def haveWholeValues : List (Option String × Tree) → Bool
  | [] => true
  | (_, t) :: rest => t.isWhole && haveWholeValues rest
end

/-! ## Arranging tokens -/

/-- An array or object that is still open, with what it holds, latest first. -/
inductive Frame where
  | array (items : List Tree)
  | object (members : List (Option String × Tree))
  /-- An object of which the value of `key` is still to come. -/
  | member (members : List (Option String × Tree)) (key : Option String)

/-- What may come next. -/
inductive Spot where
  | value
  | firstItem
  | afterItem
  | firstKey
  | key
  | colon
  | afterMember
  deriving DecidableEq

/-- A tree that is being built: the open frames, innermost first. -/
inductive Build where
  | going (frames : List Frame) (spot : Spot)
  /-- The tree is complete; `trailing` tells whether tokens came after it. -/
  | complete (tree : Tree) (trailing : Bool)

/-- A document: its tree, and whether anything but blanks follows it. -/
structure Document where
  tree : Tree
  trailing : Bool

/-- Puts an unfinished tree into the frames around it. -/
def closeUnfinished (inner : Tree) : List Frame → Tree
  | [] => inner
  | .array items :: rest => closeUnfinished (.array (inner :: items).reverse false) rest
  | .object members :: rest => closeUnfinished (.object members.reverse .cut) rest
  | .member members key :: rest =>
    closeUnfinished (.object ((key, inner) :: members).reverse .cut) rest

namespace Build

/-- A value has been completed. -/
def deliver (value : Tree) : List Frame → Build
  | [] => complete value false
  | .array items :: rest => going (.array (value :: items) :: rest) .afterItem
  | .member members key :: rest => going (.object ((key, value) :: members) :: rest) .afterMember
  | .object members :: rest => going (.object members :: rest) .afterMember

/-- The tree so far, when no sensible token comes next. -/
def abandon (frames : List Frame) (spot : Spot) : Tree :=
  match spot, frames with
  | .firstKey, .object members :: rest | .key, .object members :: rest
  | .afterMember, .object members :: rest => closeUnfinished (.object members.reverse .cut) rest
  | _, frames => closeUnfinished .broken frames

def strayKey (token : Token) : List Frame → Tree
  | .object members :: rest => closeUnfinished (.object members.reverse (.stray token)) rest
  | frames => closeUnfinished .broken frames

/-- A token where a value may start. -/
def stepValue (frames : List Frame) (token : Token) : Build :=
  match token with
  | .openArray => going (.array [] :: frames) .firstItem
  | .openObject => going (.object [] :: frames) .firstKey
  | .null => deliver .null frames
  | .bool b => deliver (.bool b) frames
  | .number n => deliver (.number n) frames
  | .text s => deliver (.text s) frames
  | .closeArray | .closeObject | .comma | .colon | .bad =>
    complete (abandon frames .value) false

def step (build : Build) (token : Token) : Build :=
  match build with
  | complete tree _ => complete tree true
  | going frames spot =>
    let failed := complete (abandon frames spot) false
    match spot, frames with
    | .value, frames => stepValue frames token
    | .firstItem, .array items :: rest =>
      if token = .closeArray then deliver (.array items.reverse true) rest
      else stepValue frames token
    | .afterItem, .array items :: rest =>
      if token = .closeArray then deliver (.array items.reverse true) rest
      else if token = .comma then going frames .value
      else failed
    | .firstKey, .object members :: rest =>
      match token with
      | .closeObject => deliver (.object members.reverse .closed) rest
      | .text key => going (.member members key :: rest) .colon
      | token => complete (strayKey token frames) false
    | .key, .object members :: rest =>
      match token with
      | .text key => going (.member members key :: rest) .colon
      | token => complete (strayKey token frames) false
    | .colon, frames => if token = .colon then going frames .value else failed
    | .afterMember, .object members :: rest =>
      if token = .closeObject then deliver (.object members.reverse .closed) rest
      else if token = .comma then going frames .key
      else failed
    | _, _ => failed

def finish : Build → Document
  | complete tree trailing => ⟨tree, trailing⟩
  | going frames spot => ⟨abandon frames spot, false⟩

end Build

def read (tokens : List Token) : Document :=
  (tokens.foldl Build.step (.going [] .value)).finish

def ofBytes (bytes : List UInt8) : Document := read (lex bytes)

end Tree
end Tenure.Json
