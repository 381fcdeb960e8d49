import Tenure.State.Graph

/-!
# What the callers of a replica share

A replica is driven by many callers at once: its election, its timers, its driver and its
users. They share the variables of `Shared`, and every `Access` is one indivisible step on
them. Locks are variables too; taking one that is held has to wait, and that is the only
access that can.
-/
namespace Tenure.Lifecycle

/-- The handle that comes with a grant of leadership; two grants are the same exactly if their
names are. -/
structure Grant where
  name : String
  deriving DecidableEq

/-- A driver, by the number in which drivers were created. -/
structure DriverId where
  index : Nat
  deriving DecidableEq

inductive Lock where
  /-- Held while a grant of leadership is taken up, so grants are taken up one at a time. -/
  | grants
  /-- Held while the driver is started, and while it is stopped for good. -/
  | driver
  deriving DecidableEq

structure Shared where
  state : State := .idle
  /-- Whether the resource manager has acknowledged registration. -/
  acknowledged : Bool := false
  /-- Whether a teardown has begun. -/
  tornDown : Bool := false
  /-- The grant that is held. -/
  slot : Option Grant := none
  /-- The driver that other parts of the scheduler may refer to. -/
  driver : Option DriverId := none
  grantsHeld : Bool := false
  driverHeld : Bool := false
  deriving DecidableEq

inductive Access where
  | readState
  /-- Moves to a state if an edge leads there. -/
  | install (target : State)
  | readAcknowledged
  | setAcknowledged (value : Bool)
  /-- Begins the teardown, unless one has begun. -/
  | claimTeardown
  /-- Puts a grant into the slot and gives what was there. -/
  | replaceSlot (grant : Grant)
  /-- Takes a grant back out of the slot, puts back what was there before it, and gives the grant.
  If the slot no longer holds it, leaves the slot alone and gives what was there before. -/
  | withdraw (grant : Grant) (previous : Option Grant)
  | readSlot
  | takeSlot
  | readDriver
  | publishDriver (driver : DriverId)
  | lock (l : Lock)
  | unlock (l : Lock)
  deriving DecidableEq

namespace Access

@[reducible] def Answer : Access → Type
  | readState => State
  | install _ => Except IllegalMove Edge
  | readAcknowledged => Bool
  | setAcknowledged _ => Unit
  | claimTeardown => Bool
  | replaceSlot _ => Option Grant
  | withdraw _ _ => Option Grant
  | readSlot => Option Grant
  | takeSlot => Option Grant
  | readDriver => Option DriverId
  | publishDriver _ => Unit
  | lock _ => Unit
  | unlock _ => Unit

end Access

namespace Shared

def isHeld (s : Shared) : Lock → Bool
  | .grants => s.grantsHeld
  | .driver => s.driverHeld

def setHeld (s : Shared) (held : Bool) : Lock → Shared
  | .grants => { s with grantsHeld := held }
  | .driver => { s with driverHeld := held }

def install (s : Shared) (target : State) : Except IllegalMove Edge × Shared :=
  match s.state.move target with
  | .ok edge => (.ok edge, { s with state := target })
  | .error refusal => (.error refusal, s)

def withdraw (s : Shared) (grant : Grant) (previous : Option Grant) : Option Grant × Shared :=
  if s.slot = some grant then (some grant, { s with slot := previous }) else (previous, s)

end Shared

/-- The answer of an access and the state after it; `none` while it has to wait. -/
def Access.apply (s : Shared) : (a : Access) → Option (a.Answer × Shared)
  | .readState => some (s.state, s)
  | .install target => some (s.install target)
  | .readAcknowledged => some (s.acknowledged, s)
  | .setAcknowledged value => some ((), { s with acknowledged := value })
  | .claimTeardown => some (!s.tornDown, { s with tornDown := true })
  | .replaceSlot grant => some (s.slot, { s with slot := some grant })
  | .withdraw grant previous => some (s.withdraw grant previous)
  | .readSlot => some (s.slot, s)
  | .takeSlot => some (s.slot, { s with slot := none })
  | .readDriver => some (s.driver, s)
  | .publishDriver driver => some ((), { s with driver := some driver })
  | .lock l => if s.isHeld l then none else some ((), s.setHeld true l)
  | .unlock l => some ((), s.setHeld false l)

theorem Access.apply_lock {s : Shared} {l : Lock} (free : s.isHeld l = false) :
    (Access.lock l).apply s = some ((), s.setHeld true l) := by
  simp [Access.apply, free]

theorem Access.apply_eq_none_iff {s : Shared} {a : Access} :
    a.apply s = none ↔ ∃ l, a = .lock l ∧ s.isHeld l = true := by
  cases a <;> simp [Access.apply]

/-- A caller waits for a lock that it holds itself, so it will wait for ever. -/
inductive Blocked where
  | blocked

end Tenure.Lifecycle
