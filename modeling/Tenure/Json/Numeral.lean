import Tenure.Decimal.Shortest

/-!
# Numbers in a document

A numeral is a number as it is written. One without fraction and exponent that fits a word of
64 bits is an integer; every other, and a negative zero, is floating point.
-/
namespace Tenure.Json

structure Exponent where
  negative : Bool := false
  digits : List Char
  deriving DecidableEq

structure Numeral where
  negative : Bool := false
  whole : List Char
  /-- The digits behind the point; there is no point if there are none. -/
  fraction : List Char := []
  exponent : Option Exponent := none
  deriving DecidableEq

/-- What a numeral stands for. -/
inductive Number where
  | integer (n : Int)
  /-- A floating-point number, by its bits. -/
  | floating (bits : Nat)
  deriving DecidableEq

def digitValue (c : Char) : Nat := c.toNat - '0'.toNat

def valueOfDigits (digits : List Char) : Nat := digits.foldl (fun n d => n * 10 + digitValue d) 0

namespace Numeral

def ofNat (n : Nat) : Numeral := { whole := Nat.toDigits 10 n }

def ofInt (n : Int) : Numeral := { negative := n < 0, whole := Nat.toDigits 10 n.natAbs }

def spell (n : Numeral) : List Char :=
  (if n.negative then ['-'] else []) ++ n.whole ++
    (if n.fraction = [] then [] else '.' :: n.fraction) ++
    match n.exponent with
    | some e => 'e' :: (if e.negative then ['-'] else []) ++ e.digits
    | none => []

def isPlain (n : Numeral) : Bool := n.fraction.isEmpty && n.exponent.isNone

/-- The integer, if the numeral is written as one and fits a word. -/
def integer? (n : Numeral) : Option Int :=
  let value := valueOfDigits n.whole
  if !n.isPlain then none
  else if n.negative then
    if 0 < value ∧ value ≤ Decimal.signBit then some (-(value : Int)) else none
  else if value < UInt64.size then some value
  else none

/-! ## Floating point

The digits are collected in a word; those that no longer fit only count towards the power of
ten. The result is the word times or over that power, each step rounded. -/

/-- A word and the power of ten to take it by. -/
structure Scaled where
  word : Nat := 0
  power : Int := 0
  full : Bool := false

def Scaled.grow (s : Scaled) (d : Char) : Option Nat :=
  let word := s.word * 10 + digitValue d
  if s.full ∨ UInt64.size ≤ word then none else some word

def Scaled.addWhole (s : Scaled) (d : Char) : Scaled :=
  match s.grow d with
  | some word => { s with word }
  | none => { s with power := s.power + 1, full := true }

def Scaled.addFraction (s : Scaled) (d : Char) : Scaled :=
  match s.grow d with
  | some word => { s with word, power := s.power - 1 }
  | none => { s with full := true }

def scaled (n : Numeral) : Scaled :=
  let whole := n.whole.foldl Scaled.addWhole {}
  n.fraction.foldl Scaled.addFraction { whole with full := false }

def powerOfTen (n : Nat) : Float := OfScientific.ofScientific 1 false n

/-- `f * 10 ^ power`, unless that is beyond every finite number. Steps of 308 keep the divisor
finite. -/
def raise (fuel : Nat) (f : Float) (power : Int) : Option Float :=
  if power.natAbs ≤ 308 then
    if 0 ≤ power then
      let product := f * powerOfTen power.natAbs
      if product.isInf then none else some product
    else
      some (f / powerOfTen power.natAbs)
  else if f == 0 then some f
  else if 0 ≤ power then none
  else match fuel with
    | 0 => some 0
    | fuel + 1 => raise fuel (f / powerOfTen 308) (power + 308)

/-- The greatest exponent that is taken into account. -/
def exponentLimit : Nat := 2147483647

/-- Stays within a signed word of 32 bits. -/
def clampPower (power : Int) : Int := max (-2147483648) (min power exponentLimit)

def magnitude? (n : Numeral) : Option Float :=
  let s := n.scaled
  let start := s.word.toUInt64.toFloat
  match n.exponent with
  | none => raise 8 start s.power
  | some e =>
    let size := valueOfDigits e.digits
    if exponentLimit < size then
      if s.word ≠ 0 ∧ !e.negative then none else some 0
    else
      raise 8 start (clampPower (if e.negative then s.power - size else s.power + size))

/-- The number that a numeral stands for; `none` if it is out of range. -/
def number? (n : Numeral) : Option Number :=
  match n.integer? with
  | some value => some (.integer value)
  | none => n.magnitude?.map fun f =>
    .floating (f.toBits.toNat + if n.negative then Decimal.signBit else 0)

end Numeral

/-- Numbers from 0.00001 up to sixteen digits are positional; others have an exponent with its
sign and at least two digits. -/
def layout : Decimal.Layout := ⟨-5, 15, 2⟩

end Tenure.Json
