import Tenure.Text.Blank

/-!
# Reading a span of time

A span is an optional sign, decimal digits and an optional unit (`ms`, `s`, `m`, `h` or `d`;
seconds if there is none), with blanks allowed around it and before the unit. `Span.read?`
gives it in milliseconds, provided that both the number and the product fit a signed word of
64 bits.
-/
namespace Tenure.Span

/-- The numbers that a signed word of 64 bits holds. -/
def inWord (n : Int) : Bool := -9223372036854775808 ≤ n && n ≤ 9223372036854775807

inductive TimeUnit where
  | millisecond
  | second
  | minute
  | hour
  | day
  deriving DecidableEq

def TimeUnit.millis : TimeUnit → Int
  | millisecond => 1
  | second => 1000
  | minute => 60000
  | hour => 3600000
  | day => 86400000

/-- Takes the unit off the end of a span. The two letters of `ms` belong together. -/
def splitUnit (s : List Char) : List Char × TimeUnit :=
  match s.reverse with
  | 's' :: 'm' :: rest => (rest.reverse, .millisecond)
  | 's' :: rest => (rest.reverse, .second)
  | 'm' :: rest => (rest.reverse, .minute)
  | 'h' :: rest => (rest.reverse, .hour)
  | 'd' :: rest => (rest.reverse, .day)
  | _ => (s, .second)

/-- A number of at least one decimal digit. -/
def natural? (digits : List Char) : Option Nat :=
  if digits ≠ [] ∧ digits.all Char.isDigit then
    some (digits.foldl (fun n d => n * 10 + (d.toNat - '0'.toNat)) 0)
  else
    none

def signed? : List Char → Option Int
  | '+' :: digits => (natural? digits).map Int.ofNat
  | '-' :: digits => (natural? digits).map fun n => -(n : Int)
  | digits => (natural? digits).map Int.ofNat

def word? (n : Int) : Option Int := if inWord n then some n else none

/-- A span without blanks around it, in milliseconds. -/
def readTrimmed? (s : List Char) : Option Int := do
  let (number, unit) := splitUnit s
  let n ← word? (← signed? (Text.trim number))
  word? (n * unit.millis)

def read? (s : List Char) : Option Int := readTrimmed? (Text.trim s)

end Tenure.Span
