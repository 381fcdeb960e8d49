import Tenure.Json.Token

/-!
# Splitting bytes into tokens

The lexer goes over the bytes once and remembers only what part of a token it is in. Where the
bytes cannot go on, it gives the token `bad` and ignores the rest; so whatever stands before
a mistake is still seen as it is.
-/
namespace Tenure.Json

/-- A part of a text: a byte as it stands, or an escaped unit of sixteen bits. -/
inductive Piece where
  | byte (b : UInt8)
  | unit (n : Nat)
  deriving DecidableEq

namespace Piece

def isHighSurrogate (n : Nat) : Bool := 0xD800 ≤ n && n < 0xDC00

def isLowSurrogate (n : Nat) : Bool := 0xDC00 ≤ n && n < 0xE000

def pair (high low : Nat) : Nat := 0x10000 + (high - 0xD800) * 0x400 + (low - 0xDC00)

def encodePoint (n : Nat) : List UInt8 := String.utf8EncodeChar (Char.ofNat n)

/-- The bytes of a text; a surrogate that is not one of a pair stands for no character. -/
def bytes? : List Piece → Option (List UInt8)
  | [] => some []
  | byte b :: rest => (bytes? rest).map (b :: ·)
  | unit high :: unit low :: rest =>
    if isHighSurrogate high then
      if isLowSurrogate low then (bytes? rest).map (encodePoint (pair high low) ++ ·) else none
    else if isLowSurrogate high then none
    else (bytes? (unit low :: rest)).map (encodePoint high ++ ·)
  | unit n :: rest =>
    if isHighSurrogate n || isLowSurrogate n then none
    else (bytes? rest).map (encodePoint n ++ ·)

def string? (pieces : List Piece) : Option String :=
  (bytes? pieces).bind fun bytes => String.fromUTF8? (.mk bytes.toArray)

end Piece

/-- How far a numeral has been read. -/
inductive NumeralPart where
  | sign
  | zero
  | whole
  | point
  | fraction
  | mark
  | exponentSign
  | exponent
  deriving DecidableEq

namespace NumeralPart

def isComplete : NumeralPart → Bool
  | zero | whole | fraction | exponent => true
  | sign | point | mark | exponentSign => false

/-- Takes one more character into a numeral, unless it does not belong to it. -/
def step (part : NumeralPart) (n : Numeral) (c : Char) : Option (NumeralPart × Numeral) :=
  let addExponent (digits : List Char) : Numeral :=
    { n with exponent := some { (n.exponent.getD ⟨false, []⟩) with digits } }
  let digits := (n.exponent.map Exponent.digits).getD []
  match part with
  | sign =>
    if c = '0' then some (zero, { n with whole := ['0'] })
    else if c.isDigit then some (whole, { n with whole := [c] })
    else none
  | zero =>
    if c = '.' then some (point, n)
    else if c = 'e' ∨ c = 'E' then some (mark, n)
    else none
  | whole =>
    if c.isDigit then some (whole, { n with whole := n.whole ++ [c] })
    else if c = '.' then some (point, n)
    else if c = 'e' ∨ c = 'E' then some (mark, n)
    else none
  | point =>
    if c.isDigit then some (fraction, { n with fraction := [c] }) else none
  | fraction =>
    if c.isDigit then some (fraction, { n with fraction := n.fraction ++ [c] })
    else if c = 'e' ∨ c = 'E' then some (mark, n)
    else none
  | mark =>
    if c = '+' then some (exponentSign, addExponent [])
    else if c = '-' then some (exponentSign, { n with exponent := some ⟨true, []⟩ })
    else if c.isDigit then some (exponent, addExponent [c])
    else none
  | exponentSign =>
    if c.isDigit then some (exponent, addExponent [c]) else none
  | exponent =>
    if c.isDigit then some (exponent, addExponent (digits ++ [c])) else none

/-- Whether a character makes a numeral wrong instead of ending it. -/
def spoils (part : NumeralPart) (c : Char) : Bool :=
  !part.isComplete || (part == zero && c.isDigit)

end NumeralPart

/-- What part of a token the lexer is in. -/
inductive LexMode where
  | between
  | word (rest : List Char) (token : Token)
  | numeral (part : NumeralPart) (n : Numeral)
  /-- Inside a text, with its pieces so far, latest first. -/
  | text (pieces : List Piece)
  | escape (pieces : List Piece)
  | hex (pieces : List Piece) (left : Nat) (value : Nat)
  /-- After a mistake. -/
  | stuck

def isSpace (c : Char) : Bool := c = ' ' ∨ c = '\n' ∨ c = '\t' ∨ c = '\r'

/-- The byte that a short escape stands for. -/
def shortEscape? (c : Char) : Option UInt8 :=
  match c with
  | '"' => some 0x22
  | '\\' => some 0x5C
  | '/' => some 0x2F
  | 'b' => some 0x08
  | 'f' => some 0x0C
  | 'n' => some 0x0A
  | 'r' => some 0x0D
  | 't' => some 0x09
  | _ => none

namespace LexMode

/-- What a byte means between two tokens. -/
def start (c : Char) : LexMode × List Token :=
  match c with
  | '[' => (between, [.openArray])
  | ']' => (between, [.closeArray])
  | '\x7b' => (between, [.openObject])
  | '\x7d' => (between, [.closeObject])
  | ',' => (between, [.comma])
  | ':' => (between, [.colon])
  | '"' => (text [], [])
  | 'n' => (word ['u', 'l', 'l'] .null, [])
  | 't' => (word ['r', 'u', 'e'] (.bool true), [])
  | 'f' => (word ['a', 'l', 's', 'e'] (.bool false), [])
  | '-' => (numeral .sign { negative := true, whole := [] }, [])
  | '0' => (numeral .zero { whole := ['0'] }, [])
  | c =>
    if isSpace c then (between, [])
    else if c.isDigit then (numeral .whole { whole := [c] }, [])
    else (stuck, [.bad])

/-- Takes in one byte and gives the tokens that it completes. -/
def step (mode : LexMode) (b : UInt8) : LexMode × List Token :=
  let c := Char.ofNat b.toNat
  match mode with
  | between => start c
  | word [] token => (stuck, [token])
  | word (x :: rest) token =>
    if c ≠ x then (stuck, [.bad])
    else if rest = [] then (between, [token])
    else (word rest token, [])
  | numeral part n =>
    match part.step n c with
    | some (part, n) => (numeral part n, [])
    | none =>
      if part.spoils c then (stuck, [.bad])
      else
        let (mode, tokens) := start c
        (mode, .number n :: tokens)
  | text pieces =>
    if c = '"' then (between, [.text (Piece.string? pieces.reverse)])
    else if c = '\\' then (escape pieces, [])
    else if b < 0x20 then (stuck, [.bad])
    else (text (.byte b :: pieces), [])
  | escape pieces =>
    if c = 'u' then (hex pieces 4 0, [])
    else match shortEscape? c with
      | some b => (text (.byte b :: pieces), [])
      | none => (stuck, [.bad])
  | hex pieces left value =>
    match Text.hexValue? c with
    | some digit =>
      let value := value * 16 + digit
      if left ≤ 1 then (text (.unit value :: pieces), []) else (hex pieces (left - 1) value, [])
    | none => (stuck, [.bad])
  | stuck => (stuck, [])

/-- The tokens that the end of the bytes completes. -/
def finish : LexMode → List Token
  | between | stuck => []
  | numeral part n => if part.isComplete then [.number n] else [.bad]
  | word _ _ | text _ | escape _ | hex _ _ _ => [.bad]

/-- The tokens of the bytes that follow. -/
def run (mode : LexMode) : List UInt8 → List Token
  | [] => mode.finish
  | b :: rest =>
    let (mode, tokens) := mode.step b
    tokens ++ run mode rest

end LexMode

def lex (bytes : List UInt8) : List Token := LexMode.between.run bytes

end Tenure.Json
