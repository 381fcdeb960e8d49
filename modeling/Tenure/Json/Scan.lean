import Tenure.Json.Lexer

/-!
# Going over a document

A scan passes over the bytes of a document up to its first mistake, and tells where that is.
Places are counted in bytes. A mistake is either found at the byte that has just been passed
(`failHere`) or at the one that comes next (`failNext`).
-/
namespace Tenure.Json

structure Mistake where
  reason : String
  /-- How many bytes stand up to and with the one where the mistake was noticed. -/
  place : Nat
  deriving DecidableEq

namespace Mistake

/-- The number of a line, and of a byte in it, after the first `n` bytes. -/
def position (bytes : List UInt8) (n : Nat) : Nat × Nat :=
  let before := bytes.take n
  (before.count 0x0A + 1, (before.reverse.takeWhile (· ≠ 0x0A)).length)

def describe (bytes : List UInt8) (m : Mistake) : String :=
  let (line, column) := position bytes m.place
  m.reason ++ " at line " ++ toString line ++ " column " ++ toString column

end Mistake

structure Cursor where
  passed : Nat := 0
  rest : List UInt8

abbrev Scan := StateT Cursor (Except Mistake)

namespace Scan

variable {α : Type}

/-! ## Reasons -/

def cutValue : String := "EOF while parsing a value"

def cutText : String := "EOF while parsing a string"

def cutArray : String := "EOF while parsing a list"

def cutObject : String := "EOF while parsing an object"

def noValue : String := "expected value"

def noKey : String := "key must be a string"

def noColon : String := "expected `:`"

def noItem : String := "expected `,` or `]`"

def noMember : String := "expected `,` or `\x7d`"

def badNumber : String := "invalid number"

def badEscape : String := "invalid escape"

def loneSurrogate : String := "lone leading surrogate in hex escape"

def trailingComma : String := "trailing comma"

def trailing : String := "trailing characters"

/-! ## Single bytes -/

def failHere (reason : String) : Scan α := fun c => .error ⟨reason, c.passed⟩

/-- At the end of the document there is no next byte, and the mistake is found there. -/
def failNext (reason : String) : Scan α := fun c =>
  .error ⟨reason, if c.rest.isEmpty then c.passed else c.passed + 1⟩

def peek : Scan (Option Char) := fun c =>
  .ok (c.rest.head?.map fun b => Char.ofNat b.toNat, c)

def eat : Scan Unit := modify fun c =>
  match c.rest with
  | _ :: rest => ⟨c.passed + 1, rest⟩
  | [] => c

/-- Passes over a byte, if there is one. -/
def next : Scan (Option Char) := do
  let c ← peek
  eat
  return c

/-- Passes over blanks and looks at what comes then. -/
def skipSpace : Scan (Option Char) := do
  modify fun c =>
    let blanks := c.rest.takeWhile fun b => isSpace (Char.ofNat b.toNat)
    ⟨c.passed + blanks.length, c.rest.drop blanks.length⟩
  peek

/-- Passes over the bytes that satisfy `p`, and gives them. -/
def takeWhile (p : Char → Bool) : Scan (List Char) := fun c =>
  let bytes := c.rest.takeWhile fun b => p (Char.ofNat b.toNat)
  .ok (bytes.map fun b => Char.ofNat b.toNat, ⟨c.passed + bytes.length, c.rest.drop bytes.length⟩)

/-- As much fuel as the bytes that are left need. -/
def fuel : Scan Nat := return (← get).rest.length + 1

/-! ## Words -/

/-- The rest of a word of which the first letter has been passed. -/
def word : List Char → Scan Unit
  | [] => return ()
  | x :: rest => do
    match ← next with
    | none => failHere cutValue
    | some c => if c = x then word rest else failHere "expected ident"

/-! ## Numbers

What only has to be well formed is read loosely: its number may be out of range, and its end is
not told apart from other mistakes. -/

def whole (loose : Bool) : Scan (List Char) := do
  match ← next with
  | none => failHere (if loose then badNumber else cutValue)
  | some '0' =>
    match ← peek with
    | some c => if c.isDigit then failNext badNumber else return ['0']
    | none => return ['0']
  | some c => if c.isDigit then return c :: (← takeWhile Char.isDigit) else failHere badNumber

def fraction (loose : Bool) : Scan (List Char) := do
  if (← peek) = some '.' then
    eat
    let digits ← takeWhile Char.isDigit
    if digits.isEmpty then
      if (← peek).isNone && !loose then failNext cutValue else failNext badNumber
    return digits
  else
    return []

/-- The digits of an exponent. With `bounded`, an exponent too great for a signed word of 32 bits is
out of range at the digit that makes it so. -/
def exponentDigits (bounded : Bool) : Nat → List Char → Scan (List Char)
  | 0, digits => return digits
  | fuel + 1, digits => do
    match ← peek with
    | some c =>
      if c.isDigit then
        eat
        let digits := digits ++ [c]
        if bounded && Numeral.exponentLimit < valueOfDigits digits then
          failHere "number out of range"
        exponentDigits bounded fuel digits
      else return digits
    | none => return digits

def exponent (loose : Bool) (n : Numeral) : Scan (Option Exponent) := do
  match ← peek with
  | some c =>
    if c = 'e' ∨ c = 'E' then
      eat
      let sign ← peek
      if sign = some '+' ∨ sign = some '-' then eat
      match ← next with
      | none => failHere (if loose then badNumber else cutValue)
      | some d =>
        if !d.isDigit then failHere badNumber
        let negative := sign = some '-'
        let bounded := !loose && !negative && n.scaled.word ≠ 0
        return some ⟨negative, ← exponentDigits bounded (← fuel) [d]⟩
    else return none
  | none => return none

/-- A numeral from here on, behind its sign. -/
def unsigned (loose negative : Bool) : Scan Numeral := do
  let whole ← whole loose
  let fraction ← fraction loose
  let n : Numeral := { negative, whole, fraction }
  return { n with exponent := ← exponent loose n }

def numeral (loose : Bool) : Scan Numeral := do
  if (← peek) = some '-' then
    eat
    unsigned loose true
  else
    unsigned loose false

def number : Scan Number := do
  match (← numeral false).number? with
  | some n => return n
  | none => failHere "number out of range"

/-! ## Texts -/

def hexUnit : Scan Nat := do
  let c ← get
  let digits := c.rest.take 4
  set (⟨c.passed + digits.length, c.rest.drop 4⟩ : Cursor)
  if digits.length < 4 then failHere cutText
  match digits.mapM fun b => Text.hexValue? (Char.ofNat b.toNat) with
  | some values => return values.foldl (fun n d => n * 16 + d) 0
  | none => failHere badEscape

/-- A byte that has to come next in a pair of escapes. -/
def pairing (x : Char) : Scan Unit := do
  match ← next with
  | none => failHere cutText
  | some c => if c ≠ x then failHere "unexpected end of hex escape"

/-- An escape behind its backslash. A surrogate has to be one of a pair, unless it is read
loosely. -/
def escape (loose : Bool) : Scan (List Piece) := do
  match ← next with
  | none => failHere cutText
  | some 'u' =>
    let high ← hexUnit
    if loose then return [.unit high]
    if Piece.isLowSurrogate high then failHere loneSurrogate
    if !Piece.isHighSurrogate high then return [.unit high]
    pairing '\\'
    pairing 'u'
    let low ← hexUnit
    if !Piece.isLowSurrogate low then failHere loneSurrogate
    return [.unit high, .unit low]
  | some c =>
    match shortEscape? c with
    | some b => return [.byte b]
    | none => failHere badEscape

def controlCharacter : String :=
  "control character (\\u0000-\\u001F) found while parsing a string"

/-- The pieces of a text behind its first quote; `pieces` are those so far, latest first. -/
def pieces (loose : Bool) : Nat → List Piece → Scan (List Piece)
  | 0, _ => failHere cutText
  | fuel + 1, done => do
    match ← peek with
    | none => failHere cutText
    | some '"' =>
      eat
      return done.reverse
    | some '\\' =>
      eat
      pieces loose fuel ((← escape loose).reverse ++ done)
    | some c =>
      if c.toNat < 0x20 then
        if loose then failHere controlCharacter else failNext controlCharacter
      eat
      pieces loose fuel (.byte (.ofNat c.toNat) :: done)

/-- A text behind its first quote. -/
def text : Scan String := do
  match Piece.string? (← pieces false (← fuel) []) with
  | some s => return s
  | none => failHere "invalid unicode code point"

def skipText : Scan Unit := do
  discard <| pieces true (← fuel) []

/-! ## Values of any kind -/

/-- What encloses the place of a scan. -/
inductive Frame where
  | array
  | object
  deriving DecidableEq

def Frame.closing : Frame → Char
  | array => ']'
  | object => '\x7d'

/-- Passes over the next key and its colon. -/
def skipKey : Scan Unit := do
  match ← skipSpace with
  | some '"' => eat
  | some _ => failNext noKey
  | none => failNext cutObject
  skipText
  match ← skipSpace with
  | some ':' => eat
  | some _ => failNext noColon
  | none => failNext cutObject

def enter : Frame → Scan Unit
  | .array => return ()
  | .object => skipKey

/-- Goes on behind a value, or behind the opening of the innermost frame, to the next value. Gives
the frames around it; none are left at the end. -/
def leave : List Frame → (behindValue : Bool) → Scan (List Frame)
  | [], _ => return []
  | frame :: frames, behindValue => do
    match ← skipSpace with
    | none => failNext (match frame with | .array => cutArray | .object => cutObject)
    | some c =>
      if c = ',' ∧ behindValue then
        eat
        enter frame
        return frame :: frames
      else if c = frame.closing then
        eat
        leave frames true
      else if behindValue then failNext (match frame with | .array => noItem | .object => noMember)
      else
        enter frame
        return frame :: frames

/-- Passes over a value inside these frames, and on to the end of the outermost. -/
def skipWithin : Nat → List Frame → Scan Unit
  | 0, _ => return ()
  | fuel + 1, frames => do
    let goOn (frames : List Frame) (behindValue : Bool) : Scan Unit := do
      match ← leave frames behindValue with
      | [] => return ()
      | frames => skipWithin fuel frames
    match ← skipSpace with
    | none => failNext cutValue
    | some '[' =>
      eat
      goOn (.array :: frames) false
    | some '\x7b' =>
      eat
      goOn (.object :: frames) false
    | some '"' =>
      eat
      skipText
      goOn frames true
    | some 'n' =>
      eat
      word ['u', 'l', 'l']
      goOn frames true
    | some 't' =>
      eat
      word ['r', 'u', 'e']
      goOn frames true
    | some 'f' =>
      eat
      word ['a', 'l', 's', 'e']
      goOn frames true
    | some c =>
      if c = '-' ∨ c.isDigit then
        discard <| numeral true
        goOn frames true
      else
        failNext noValue

def skipValue : Scan Unit := do
  skipWithin (← fuel) []

end Scan
end Tenure.Json
