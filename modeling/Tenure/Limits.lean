import Tenure.Duration.Grammar
import Tenure.Duration
import Tenure.Error
import Tenure.Text.Quoted

/-!
# Limits on leadership

How long a leader may wait for its registration, and how long it may lead at all. Both are
durations, given directly, in milliseconds, or as text.
-/
namespace Tenure

structure Limits where
  registration : Duration
  leading : Duration
  deriving DecidableEq

namespace Limits

/-- A minute to register, a day to lead. -/
def default : Limits := ⟨.ofSeconds 60, .ofSeconds 86400⟩

/-- What is wrong with one of the two limits. -/
inductive Fault where
  | unreadable (text : String)
  | negative (millis : Int)
  deriving DecidableEq

def Fault.message (name : String) : Fault → String
  | unreadable text => name ++ ": cannot parse duration " ++ Text.quoted text
  | negative millis => name ++ " must be non-negative, got " ++ toString millis ++ "ms"

def registrationName : String := "registration delay limit"

def leadingName : String := "leading time limit"

def nonNegative (millis : Int) : Except Fault Duration :=
  if millis < 0 then .error (.negative millis) else .ok (.ofMillis millis.toNat)

def readMillis (s : String) : Except Fault Int :=
  let trimmed := Text.trim s.toList
  match Span.readTrimmed? trimmed with
  | some millis => .ok millis
  | none => .error (.unreadable (.ofList trimmed))

/-- Puts the name of the limit to its fault. -/
def orInvalid (name : String) {α : Type} : Except Fault α → Except LifecycleError α
  | .ok a => .ok a
  | .error fault => .error (.invalidOptions (fault.message name))

def ofMillis (registration leading : Int) : Except LifecycleError Limits := do
  let registration ← orInvalid registrationName (nonNegative registration)
  let leading ← orInvalid leadingName (nonNegative leading)
  return ⟨registration, leading⟩

/-- Both texts are read before either number is checked for its sign. -/
def parse (registration leading : String) : Except LifecycleError Limits := do
  let registration ← orInvalid registrationName (readMillis registration)
  let leading ← orInvalid leadingName (readMillis leading)
  ofMillis registration leading

def describe (l : Limits) : String :=
  "registration within " ++ l.registration.text ++ ", lead for at most " ++ l.leading.text

end Limits
end Tenure
