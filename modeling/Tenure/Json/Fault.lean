import Tenure.Json.Tree
import Tenure.Text.Quoted

/-!
# What is wrong with a document

The faults that reading a document as a value of a known shape can meet, and the readings that
records are made of. Each reading looks at its tree in document order and gives the first fault.
-/
namespace Tenure.Json

/-- What stands where something else was expected. -/
inductive Found where
  | null
  | bool (b : Bool)
  | number (n : Number)
  | text (s : String)
  | sequence
  | map
  deriving DecidableEq

def Found.describe : Found → String
  | null => "null"
  | bool true => "boolean `true`"
  | bool false => "boolean `false`"
  | number (.integer n) => "integer `" ++ toString n ++ "`"
  | number (.floating bits) => "floating point `" ++ layout.ofBits bits ++ "`"
  | text s => "string " ++ Text.quoted s
  | sequence => "sequence"
  | map => "map"

inductive Fault where
  /-- The document is not well formed here. -/
  | malformed
  | missingField (name : String)
  | duplicateField (name : String)
  | unknownVariant (name : String) (known : List String)
  | wrongType (found : Found) (expected : String)
  | wrongValue (found : Found) (expected : String)
  | wrongLength (length : Nat) (expected : String)
  deriving DecidableEq

namespace Fault

def ticked (s : String) : String := "`" ++ s ++ "`"

/-- The names that are known, as they are listed in a reason. -/
def choice : List String → String
  | [] => "there are no variants"
  | [a] => "expected " ++ ticked a
  | [a, b] => "expected " ++ ticked a ++ " or " ++ ticked b
  | names => "expected one of " ++ ", ".intercalate (names.map ticked)

def reason : Fault → String
  | malformed => "syntax"
  | missingField name => "missing field " ++ ticked name
  | duplicateField name => "duplicate field " ++ ticked name
  | unknownVariant name known => "unknown variant " ++ ticked name ++ ", " ++ choice known
  | wrongType found expected => "invalid type: " ++ found.describe ++ ", expected " ++ expected
  | wrongValue found expected => "invalid value: " ++ found.describe ++ ", expected " ++ expected
  | wrongLength length expected =>
    "invalid length " ++ toString length ++ ", expected " ++ expected

end Fault

/-- Where a tree comes from: the text of a document, or a value that was read before. A value
has no repeated keys, and its faults are told apart more finely. -/
inductive Origin where
  | text
  | value
  deriving DecidableEq

namespace Tree

/-- What a tree is, when something else was expected. -/
def found : Tree → Except Fault Found
  | null => .ok .null
  | bool b => .ok (.bool b)
  | number n =>
    match n.number? with
    | some value => .ok (.number value)
    | none => .error .malformed
  | text (some s) => .ok (.text s)
  | text none => .error .malformed
  | array _ _ => .ok .sequence
  | object _ _ => .ok .map
  | broken => .error .malformed

def mismatch {α : Type} (t : Tree) (expected : String) : Except Fault α :=
  match t.found with
  | .ok found => .error (.wrongType found expected)
  | .error fault => .error fault

def asText : Tree → Except Fault String
  | text (some s) => .ok s
  | text none => .error .malformed
  | t => t.mismatch "a string"

/-- A number from 0 up to the greatest of a word of 64 bits. -/
def asWord : Tree → Except Fault UInt64
  | t@(number n) =>
    match n.integer? with
    | some value =>
      if value < 0 then .error (.wrongValue (.number (.integer value)) "u64")
      else .ok (.ofNat value.toNat)
    | none => t.mismatch "u64"
  | t => t.mismatch "u64"

def asUnit : Tree → Except Fault Unit
  | null => .ok ()
  | t => t.mismatch "unit"

/-- Nothing for `null`. -/
def asOptional {α : Type} (read : Tree → Except Fault α) : Tree → Except Fault (Option α)
  | null => .ok none
  | t => (read t).map some

/-- Passes over a value of which only the form matters. -/
def skip (t : Tree) : Except Fault Unit := if t.isWhole then .ok () else .error .malformed

/-- A token in the place of a name. -/
def foundToken : Token → Except Fault Found
  | .null => .ok .null
  | .bool b => .ok (.bool b)
  | .number n => found (.number n)
  | .text s => found (.text s)
  | .openArray => .ok .sequence
  | .openObject => .ok .map
  | .closeArray | .closeObject | .comma | .colon | .bad => .error .malformed

/-! ## One of several names -/

def variant {α : Type} (named : List (String × α)) (name : String) : Except Fault α :=
  match named.find? fun entry => entry.1 == name with
  | some (_, a) => .ok a
  | none => .error (.unknownVariant name (named.map Prod.fst))

/-- A name in an object of its own, with `null` as its value. -/
def loneVariant {α : Type} (origin : Origin) (named : List (String × α))
    (members : List (Option String × Tree)) (stop : Stop) : Except Fault α :=
  match members, stop with
  | [], .stray token =>
    match foundToken token with
    | .ok found => .error (.wrongType found "variant identifier")
    | .error fault => .error fault
  | (some name, value) :: rest, stop => do
    if origin = .value ∧ rest ≠ [] then throw (.wrongValue .map "map with a single key")
    let a ← variant named name
    value.asUnit
    if rest ≠ [] ∨ stop ≠ .closed then throw .malformed
    return a
  | _, _ =>
    match origin with
    | .value => .error (.wrongValue .map "map with a single key")
    | .text => .error .malformed

def asVariant {α : Type} (origin : Origin) (named : List (String × α)) :
    Tree → Except Fault α
  | text (some name) => variant named name
  | object members stop => loneVariant origin named members stop
  | t =>
    match origin with
    | .value => t.mismatch "string or map"
    | .text => .error .malformed

/-! ## Records -/

/-- Takes the members of an object one by one into a draft. -/
def fillDraft {σ : Type} (put : σ → String → Tree → Except Fault σ) :
    σ → List (Option String × Tree) → Except Fault σ
  | draft, [] => .ok draft
  | _, (none, _) :: _ => .error .malformed
  | draft, (some key, value) :: rest =>
    match put draft key value with
    | .ok draft => fillDraft put draft rest
    | .error fault => .error fault

def fromMembers {σ : Type} (put : σ → String → Tree → Except Fault σ) (empty : σ)
    (members : List (Option String × Tree)) (stop : Stop) : Except Fault σ := do
  let draft ← fillDraft put empty members
  if stop = .closed then return draft else throw .malformed

/-- What may follow the fields of a record that is written as an array. -/
def endOfFields (origin : Origin) (items : List Tree) (closed : Bool) (size : Nat) :
    Except Fault Unit :=
  if items.length ≤ size ∧ closed then .ok ()
  else match origin with
    | .text => .error .malformed
    | .value => .error (.wrongLength items.length "fewer elements in array")

end Tree
end Tenure.Json
