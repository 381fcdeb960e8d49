/-!
# The shortest decimal of a binary fraction

A floating-point number stands for all real numbers that round to it. `shortest` gives, of the
decimals that do, one with the fewest digits, and of those the nearest to the number.

The arithmetic is exact: a positive number is `significand * 2 ^ exponent`, and the ends of
its interval are compared as integers over a common denominator.
-/
namespace Tenure.Decimal

/-- A positive number `significand * 2 ^ exponent`. -/
structure Binary where
  significand : Nat
  exponent : Int
  /-- The next smaller number is only half a unit of `exponent` away. -/
  narrowBelow : Bool

/-- A decimal `digits * 10 ^ exponent`. -/
structure Digits where
  digits : Nat
  exponent : Int
  deriving DecidableEq

/-- The bit of 64 that holds the sign. -/
def signBit : Nat := 9223372036854775808

/-- What the lowest 52 bits can hold, they being the fraction. -/
def fractionSize : Nat := 4503599627370496

/-- The magnitude of a finite number of 64 bits; `none` for zero, infinities and NaN. -/
def Binary.ofBits? (bits : Nat) : Option Binary :=
  let fraction : Nat := bits % fractionSize
  let field : Nat := bits / fractionSize % 2048
  if field = 2047 then none
  else if field = 0 then
    if fraction = 0 then none else some ⟨fraction, -1074, false⟩
  else some ⟨fractionSize + fraction, (field : Int) - 1075, fraction = 0 && field != 1⟩

namespace Binary

/-- Numerator and denominator of `n * 2 ^ exponent`. -/
def scaled (n : Nat) (exponent : Int) : Nat × Nat :=
  (n * Nat.pow 2 exponent.toNat, Nat.pow 2 (-exponent).toNat)

/-- The ends of the interval that rounds to `b`, in quarters of a unit. -/
def lower (b : Binary) : Nat := 4 * b.significand - (if b.narrowBelow then 1 else 2)

def upper (b : Binary) : Nat := 4 * b.significand + 2

/-- Whether `d` rounds to `b`; the ends do when the significand is even. -/
def isReadFrom (b : Binary) (d : Digits) : Bool :=
  let (num, den) := scaled 1 (b.exponent - 2)
  let point := d.digits * Nat.pow 10 d.exponent.toNat * den
  let unit := num * Nat.pow 10 (-d.exponent).toNat
  if b.significand % 2 = 0 then b.lower * unit ≤ point && point ≤ b.upper * unit
  else b.lower * unit < point && point < b.upper * unit

/-- The whole part of `b / 10 ^ exponent`, and twice the rest against the divisor. -/
def onGrid (b : Binary) (exponent : Int) : Nat × Ordering :=
  let (num, den) := scaled b.significand b.exponent
  let num := num * Nat.pow 10 (-exponent).toNat
  let den := den * Nat.pow 10 exponent.toNat
  (num / den, compare (2 * (num % den)) den)

/-- The exponent of the leading decimal digit. -/
def magnitude (b : Binary) : Int :=
  let (num, den) := scaled b.significand b.exponent
  if den ≤ num then (Nat.toDigits 10 (num / den)).length - 1
  else match (List.range 400).find? fun j => den ≤ num * Nat.pow 10 j with
    | some j => -(j : Int)
    | none => 0

/-- A decimal of `places` digits that rounds to `b`, the nearest if there are two. -/
def withPlaces? (b : Binary) (places : Nat) : Option Digits :=
  let exponent := b.magnitude + 1 - places
  let (whole, rest) := b.onGrid exponent
  let below : Digits := ⟨whole, exponent⟩
  let above : Digits := ⟨whole + 1, exponent⟩
  match b.isReadFrom below, b.isReadFrom above with
  | true, true => some (if rest = .lt ∨ rest = .eq ∧ whole % 2 = 0 then below else above)
  | true, false => some below
  | false, true => some above
  | false, false => none

def shortest (b : Binary) : Digits :=
  ((List.range 17).findSome? fun n => b.withPlaces? (n + 1)).getD ⟨0, 0⟩

end Binary

/-- How a number is laid out: which exponents of the leading digit are written positionally, and
how the others are. -/
structure Layout where
  leastPositional : Int
  greatestPositional : Int
  exponentDigits : Nat

namespace Layout

def padLeft (width : Nat) (digits : List Char) : List Char :=
  List.replicate (width - digits.length) '0' ++ digits

/-- A sign and at least `exponentDigits` digits. -/
def exponentText (layout : Layout) (e : Int) : List Char :=
  (if e < 0 then '-' else '+') :: padLeft layout.exponentDigits (Nat.toDigits 10 e.natAbs)

/-- A positional number always has a digit on both sides of its point. -/
def positional (digits : List Char) (magnitude : Int) : List Char :=
  if magnitude < 0 then
    ['0', '.'] ++ List.replicate (-magnitude - 1).toNat '0' ++ digits
  else
    let whole := magnitude.toNat + 1
    let fraction := digits.drop whole
    digits.take whole ++ List.replicate (whole - digits.length) '0' ++
      '.' :: (if fraction = [] then ['0'] else fraction)

def scientific (layout : Layout) (digits : List Char) (magnitude : Int) : List Char :=
  let lead := match digits with
    | d :: rest@(_ :: _) => d :: '.' :: rest
    | ds => ds
  lead ++ 'e' :: layout.exponentText magnitude

def write (layout : Layout) (d : Digits) : List Char :=
  let all := Nat.toDigits 10 d.digits
  let magnitude := d.exponent + all.length - 1
  let digits := (all.reverse.dropWhile (· == '0')).reverse
  if layout.leastPositional ≤ magnitude ∧ magnitude ≤ layout.greatestPositional then
    positional digits magnitude
  else
    layout.scientific digits magnitude

/-- The text of the finite number with these bits. -/
def ofBits (layout : Layout) (bits : Nat) : String :=
  let sign := if signBit ≤ bits then ['-'] else []
  let magnitude := match Binary.ofBits? bits with
    | some b => layout.write b.shortest
    | none => ['0', '.', '0']
  .ofList (sign ++ magnitude)

end Layout
end Tenure.Decimal
