/-!
# Durations

A duration is a whole number of nanoseconds. `Duration.text` writes it in the largest of the
units s, ms, µs and ns of which it holds at least one, as a decimal fraction without trailing
zeros.
-/
namespace Tenure

structure Duration where
  nanos : Nat
  deriving DecidableEq

namespace Duration

def zero : Duration := ⟨0⟩

def ofMillis (n : Nat) : Duration := ⟨n * 1000000⟩

def ofSeconds (n : Nat) : Duration := ⟨n * 1000000000⟩

/-- The most seconds that a duration given in parts may hold. -/
def maxSeconds : Nat := UInt64.size - 1

/-- Seconds and nanoseconds together, unless their whole seconds are too many. -/
def ofParts? (seconds nanos : Nat) : Option Duration :=
  if seconds + nanos / 1000000000 ≤ maxSeconds then some ⟨seconds * 1000000000 + nanos⟩ else none

def seconds (d : Duration) : Nat := d.nanos / 1000000000

/-- The nanoseconds beyond the last whole second. -/
def subsecond (d : Duration) : Nat := d.nanos % 1000000000

/-- The digits of `rest / 10 ^ places` behind the point, without trailing zeros. -/
def fractionDigits (rest places : Nat) : List Char :=
  let digits := Nat.toDigits 10 rest
  ((List.replicate (places - digits.length) '0' ++ digits).reverse.dropWhile (· == '0')).reverse

/-- `n / 10 ^ places` as a decimal number. -/
def decimal (n places : Nat) : String :=
  let whole := Nat.repr (n / Nat.pow 10 places)
  match fractionDigits (n % Nat.pow 10 places) places with
  | [] => whole
  | digits => whole ++ "." ++ .ofList digits

def text (d : Duration) : String :=
  if 1000000000 ≤ d.nanos then decimal d.nanos 9 ++ "s"
  else if 1000000 ≤ d.nanos then decimal d.nanos 6 ++ "ms"
  else if 1000 ≤ d.nanos then decimal d.nanos 3 ++ "µs"
  else decimal d.nanos 0 ++ "ns"

end Duration
end Tenure
