/-!
# An agenda on a clock

Items are due a delay after they were put down. When the clock moves on, all items whose time
has come are taken off: the earliest first, and of one instant in the order in which they
were put down.
-/
namespace Tenure

structure Agenda (α : Type) where
  now : Nat := 0
  /-- The due time of each open item, in the order in which they were put down. -/
  entries : List (Nat × α) := []

namespace Agenda

variable {α : Type}

def schedule (a : Agenda α) (delay : Nat) (item : α) : Agenda α :=
  { a with entries := a.entries ++ [(a.now + delay, item)] }

def isDue (now : Nat) (entry : Nat × α) : Bool := entry.1 ≤ now

/-- Moves the clock on and takes off what is due by then. -/
def advance (a : Agenda α) (span : Nat) : List α × Agenda α :=
  let now := a.now + span
  let due := (a.entries.filter (isDue now)).mergeSort fun x y => x.1 ≤ y.1
  (due.map Prod.snd, { now, entries := a.entries.filter fun entry => !isDue now entry })

/-- The earliest time at which something is due. -/
def nextDue? (a : Agenda α) : Option Nat := (a.entries.map Prod.fst).min?

end Agenda
end Tenure
