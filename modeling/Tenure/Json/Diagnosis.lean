import Tenure.Json.Fault
import Tenure.Json.Scan

/-!
# Where a document goes wrong

Scans for the shapes that records are made of. They accept what the readings of a tree accept,
and give for the first fault its place and, where a document is not well formed, what is wrong
with it. `explain` puts this into words.
-/
namespace Tenure.Json

namespace Scan

def fault {α : Type} (f : Fault) : Scan α := failHere f.reason

/-- What stands here in place of something else. An array or object is not entered. -/
def found : Scan Found := do
  match ← skipSpace with
  | none => failNext cutValue
  | some 'n' =>
    eat
    word ['u', 'l', 'l']
    return .null
  | some 't' =>
    eat
    word ['r', 'u', 'e']
    return .bool true
  | some 'f' =>
    eat
    word ['a', 'l', 's', 'e']
    return .bool false
  | some '"' =>
    eat
    return .text (← text)
  | some '[' => return .sequence
  | some '\x7b' => return .map
  | some c => if c = '-' ∨ c.isDigit then return .number (← number) else failNext noValue

/-- Scans for something of which `accept` says whether it will do. -/
def expect (expected : String) (accept : Found → Except Fault Bool) : Scan Found := do
  let f ← found
  match accept f with
  | .ok true => return f
  | .ok false => fault (.wrongType f expected)
  | .error e => fault e

/-! ## Single values -/

def asText : Scan Unit := do
  discard <| expect "a string" fun
    | .text _ => .ok true
    | _ => .ok false

def asWord : Scan Unit := do
  discard <| expect "u64" fun
    | .number (.integer n) =>
      if n < 0 then .error (.wrongValue (.number (.integer n)) "u64") else .ok true
    | _ => .ok false

def asUnit : Scan Unit := do
  discard <| expect "unit" fun
    | .null => .ok true
    | _ => .ok false

def asOptional (value : Scan Unit) : Scan Unit := do
  if (← skipSpace) = some 'n' then
    eat
    word ['u', 'l', 'l']
  else
    value

/-! ## One of several names -/

def asName (names : List String) : Scan Unit := do
  discard <| expect "variant identifier" fun
    | .text name => if name ∈ names then .ok true else .error (.unknownVariant name names)
    | _ => .ok false

def colon : Scan Unit := do
  match ← skipSpace with
  | some ':' => eat
  | some _ => failNext noColon
  | none => failNext cutObject

def asVariant (names : List String) : Scan Unit := do
  match ← skipSpace with
  | some '\x7b' =>
    eat
    asName names
    colon
    asUnit
    match ← skipSpace with
    | some '\x7d' => eat
    | some _ => failHere noValue
    | none => failHere cutObject
  | some '"' => asName names
  | some _ => failNext noValue
  | none => failNext cutValue

/-! ## Records -/

structure Field where
  name : String
  value : Scan Unit
  /-- Whether a record without it is incomplete. -/
  needed : Bool := true

/-- Whether another item follows. Does not pass over the end of the array. -/
def hasItem (first : Bool) : Scan Bool := do
  match ← skipSpace with
  | none => failNext cutArray
  | some ']' => return false
  | some c =>
    if first then return true
    else if c = ',' then
      eat
      match ← skipSpace with
      | some ']' => failNext trailingComma
      | some _ => return true
      | none => failNext cutValue
    else failNext noItem

/-- The fields in their order, up to the first that is missing. -/
def items (expected : String) : List Field → Nat → Scan (Option Fault)
  | [], _ => return none
  | field :: rest, n => do
    if ← hasItem (n = 0) then
      field.value
      items expected rest (n + 1)
    else if field.needed then return some (.wrongLength n expected)
    else items expected rest (n + 1)

/-- Whether another member follows. Does not pass over its key, nor over the end of the object. -/
def hasMember (first : Bool) : Scan Bool := do
  match ← skipSpace with
  | none => failNext cutObject
  | some '\x7d' => return false
  | some c =>
    if first then
      if c = '"' then return true else failNext noKey
    else if c = ',' then
      eat
      match ← skipSpace with
      | some '"' => return true
      | some '\x7d' => failNext trailingComma
      | some _ => failNext noKey
      | none => failNext cutValue
    else failNext noMember

/-- The members from here on, after those with the keys that were met. -/
def members (fields : List Field) : Nat → Bool → List String → Scan (Option Fault)
  | 0, _, _ => return none
  | fuel + 1, first, met => do
    if ← hasMember first then
      eat
      let key ← text
      match fields.find? fun field => field.name == key with
      | none =>
        colon
        skipValue
        members fields fuel false met
      | some field =>
        if key ∈ met then return some (.duplicateField key)
        colon
        field.value
        members fields fuel false (key :: met)
    else
      let missing := fields.find? fun field => field.needed && field.name ∉ met
      return missing.map fun field => .missingField field.name

def endArray : Scan Unit := do
  match ← skipSpace with
  | some ']' => eat
  | some ',' =>
    eat
    match ← skipSpace with
    | some ']' => failNext trailingComma
    | _ => failNext trailing
  | some _ => failNext trailing
  | none => failNext cutArray

/-- Ends a record; a fault of the record as a whole is placed behind it. -/
def conclude (last : Char) (ending : Scan Unit) : Option Fault → Scan Unit
  | none => ending
  | some f => do
    if (← skipSpace) = some last then eat
    fault f

def asRecord (name : String) (fields : List Field) : Scan Unit := do
  match ← skipSpace with
  | some '[' =>
    eat
    let expected := name ++ " with " ++ toString fields.length ++ " elements"
    conclude ']' endArray (← items expected fields 0)
  | some '\x7b' =>
    eat
    conclude '\x7d' eat (← members fields (← fuel) true [])
  | _ => discard <| expect name fun _ => .ok false

/-! ## Documents -/

/-- A document that holds a value and nothing else. -/
def document (value : Scan Unit) : Scan Unit := do
  value
  if (← skipSpace).isSome then failNext trailing

/-- What is wrong with a document and where; nothing if it is as expected. -/
def explain (value : Scan Unit) (bytes : List UInt8) : Option String :=
  match (document value).run { rest := bytes } with
  | .ok _ => none
  | .error mistake => some (mistake.describe bytes)

end Scan
end Tenure.Json
