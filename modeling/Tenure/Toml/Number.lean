import Tenure.Toml.Value

/-!
# TOML numbers and moments

Each reader takes its form off the front of a text and gives what is left. Digits may be
grouped by single underscores between two of them.
-/
namespace Tenure.Toml

namespace Number

/-! ## Digits -/

/-- The digits that go on a group of digits, and the rest. -/
def moreDigits (isDigit : Char → Bool) : List Char → List Char × List Char
  | [] => ([], [])
  | [c] => if isDigit c then ([c], []) else ([], [c])
  | c :: d :: rest =>
    if isDigit c then
      let (digits, left) := moreDigits isDigit (d :: rest)
      (c :: digits, left)
    else if c = '_' ∧ isDigit d then
      let (digits, left) := moreDigits isDigit rest
      (d :: digits, left)
    else ([], c :: d :: rest)

def digits? (isDigit : Char → Bool) : List Char → Option (List Char × List Char)
  | c :: rest =>
    if isDigit c then
      let (digits, left) := moreDigits isDigit rest
      some (c :: digits, left)
    else none
  | [] => none

def digitValue (c : Char) : Nat :=
  if c.isDigit then c.toNat - '0'.toNat
  else if 'a' ≤ c ∧ c ≤ 'f' then c.toNat - 'a'.toNat + 10
  else c.toNat - 'A'.toNat + 10

def valueIn (base : Nat) (digits : List Char) : Nat :=
  digits.foldl (fun n d => n * base + digitValue d) 0

def isHexDigit (c : Char) : Bool :=
  c.isDigit || ('a' ≤ c && c ≤ 'f') || ('A' ≤ c && c ≤ 'F')

def isOctalDigit (c : Char) : Bool := '0' ≤ c && c ≤ '7'

def isBinaryDigit (c : Char) : Bool := c = '0' || c = '1'

/-! ## Integers -/

/-- A number that fits a signed word of 64 bits. -/
def inWord? (n : Int) (rest : List Char) : Option (Value × List Char) :=
  if -9223372036854775808 ≤ n ∧ n ≤ 9223372036854775807 then some (.integer n, rest) else none

def sign : List Char → Bool × List Char
  | '-' :: rest => (true, rest)
  | '+' :: rest => (false, rest)
  | s => (false, s)

/-- Decimal digits of which the first is only zero if it is the only one. -/
def wholeDigits? : List Char → Option (List Char × List Char)
  | '0' :: rest => some (['0'], rest)
  | s => digits? Char.isDigit s

def inBase? (base : Nat) (isDigit : Char → Bool) (s : List Char) : Option (Value × List Char) := do
  let (digits, rest) ← digits? isDigit s
  inWord? (valueIn base digits) rest

def integer? : List Char → Option (Value × List Char)
  | '0' :: 'x' :: rest => inBase? 16 isHexDigit rest
  | '0' :: 'o' :: rest => inBase? 8 isOctalDigit rest
  | '0' :: 'b' :: rest => inBase? 2 isBinaryDigit rest
  | s => do
    let (negative, s) := sign s
    let (digits, rest) ← wholeDigits? s
    let n := valueIn 10 digits
    inWord? (if negative then -(n : Int) else n) rest

/-! ## Floating-point numbers -/

def exponent? : List Char → Option (Int × List Char)
  | c :: s => do
    guard (c = 'e' ∨ c = 'E')
    let (negative, s) := sign s
    let (digits, rest) ← digits? Char.isDigit s
    let n := valueIn 10 digits
    return (if negative then -(n : Int) else n, rest)
  | [] => none

def fraction? : List Char → Option (List Char × List Char)
  | '.' :: s => digits? Char.isDigit s
  | _ => none

/-- Whether `significand * 10 ^ exponent` is too great for a number of 64 bits. -/
def overflows (significand : Nat) (exponent : Int) : Bool :=
  let length := (Nat.toDigits 10 significand).length
  if significand = 0 then false
  else if 310 < length + exponent then true
  else if length + exponent < 300 then false
  else
    let limit := Nat.pow 2 1024 - Nat.pow 2 970
    limit * Nat.pow 10 (-exponent).toNat ≤ significand * Nat.pow 10 exponent.toNat

/-- Digits with a fraction, an exponent, or both; not too great unless it is negative. -/
def decimal? (s : List Char) : Option (Value × List Char) := do
  let (negative, s) := sign s
  let (whole, s) ← wholeDigits? s
  let (fraction, exponent, rest) ← match fraction? s with
    | some (fraction, s) =>
      match exponent? s with
      | some (exponent, s) => some (fraction, exponent, s)
      | none => some (fraction, 0, s)
    | none => (exponent? s).map fun (exponent, s) => ([], exponent, s)
  guard (negative ∨ !overflows (valueIn 10 (whole ++ fraction)) (exponent - fraction.length))
  return (.floating, rest)

def special? (s : List Char) : Option (Value × List Char) :=
  match (sign s).2 with
  | 'i' :: 'n' :: 'f' :: rest => some (.floating, rest)
  | 'n' :: 'a' :: 'n' :: rest => some (.floating, rest)
  | _ => none

end Number

namespace Moment

/-- A number of exactly `count` decimal digits. -/
def number? (count : Nat) (s : List Char) : Option (Nat × List Char) :=
  let digits := s.take count
  if digits.length = count ∧ digits.all Char.isDigit then
    some (Number.valueIn 10 digits, s.drop count)
  else
    none

def bounded? (count low high : Nat) (s : List Char) : Option (Nat × List Char) := do
  let (n, rest) ← number? count s
  guard (low ≤ n ∧ n ≤ high)
  return (n, rest)

def mark? (c : Char) : List Char → Option (List Char)
  | d :: rest => if c = d then some rest else none
  | [] => none

def isLeapYear (year : Nat) : Bool := year % 4 = 0 && (year % 100 != 0 || year % 400 = 0)

def daysIn (year month : Nat) : Nat :=
  if month = 2 then (if isLeapYear year then 29 else 28)
  else if month ∈ [4, 6, 9, 11] then 30
  else 31

def date? (s : List Char) : Option (List Char) := do
  let (year, s) ← number? 4 s
  let (month, s) ← bounded? 2 1 12 (← mark? '-' s)
  let (day, s) ← bounded? 2 1 31 (← mark? '-' s)
  guard (day ≤ daysIn year month)
  return s

/-- Passes over a fraction of a second, if there is one. -/
def skipFraction : List Char → List Char
  | '.' :: c :: rest => if c.isDigit then rest.dropWhile Char.isDigit else '.' :: c :: rest
  | s => s

def time? (s : List Char) : Option (List Char) := do
  let (_, s) ← bounded? 2 0 23 s
  let (_, s) ← bounded? 2 0 59 (← mark? ':' s)
  let (_, s) ← bounded? 2 0 60 (← mark? ':' s)
  return skipFraction s

/-- Passes over an offset from universal time, if there is one. -/
def skipOffset : List Char → Option (List Char)
  | [] => some []
  | c :: rest =>
    if c = 'Z' ∨ c = 'z' then some rest
    else if c = '+' ∨ c = '-' then do
      let (_, s) ← bounded? 2 0 23 rest
      let (_, s) ← bounded? 2 0 59 (← mark? ':' s)
      return s
    else some (c :: rest)

/-- The time of a day, behind its date. -/
def timeOfDay? : List Char → Option (List Char)
  | c :: rest => do
    guard (c = 'T' ∨ c = 't' ∨ c = ' ')
    skipOffset (← time? rest)
  | [] => none

def read? (s : List Char) : Option (Value × List Char) :=
  match date? s with
  | some rest => some (.moment, (timeOfDay? rest).getD rest)
  | none => (time? s).map fun rest => (.moment, rest)

end Moment
end Tenure.Toml
