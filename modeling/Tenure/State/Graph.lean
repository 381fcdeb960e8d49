import Tenure.State

/-!
# Legal transitions

The states a replica may move to from each state, and the work a move calls for once its
target is installed. Every state has an edge into `dead`, `dead` itself included, so a
request to die is never refused; such an edge calls for no work of its own.
-/
namespace Tenure

/-- Work that a move calls for after its target is installed. -/
inductive Duty where
  /-- Make storage ready, then move on to `storagePrepared`. -/
  | prepareStorage
  /-- Repair the store, create and start the driver, arm the timers. -/
  | takeLead
  /-- Acknowledge registration and advertise presence. -/
  | confirmRegistration
  deriving DecidableEq

def Duty.name : Duty → String
  | prepareStorage => "PrepareStorage"
  | takeLead => "HandleLeading"
  | confirmRegistration => "HandleRegistered"

/-- A legal move between two states. -/
structure Edge where
  source : State
  target : State
  duty : Option Duty
  deriving DecidableEq

/-- The move that was asked for is not in the graph. -/
structure IllegalMove where
  source : State
  target : State
  deriving DecidableEq

namespace State

def successors : State → List State
  | idle => [preparingStorage, dead]
  | preparingStorage => [storagePrepared, dead]
  | storagePrepared => [leaderAwaitingRegistration, dead]
  | leaderAwaitingRegistration => [registeredLeader, dead]
  | registeredLeader => [active, dead]
  | active => [dead]
  | dead => [dead]

/-- The work of the edge that leads onwards from a state. -/
def forwardDuty : State → Option Duty
  | idle => some .prepareStorage
  | storagePrepared => some .takeLead
  | leaderAwaitingRegistration => some .confirmRegistration
  | _ => none

end State

namespace Edge

def between? (source target : State) : Option Edge :=
  if target ∈ source.successors then
    some ⟨source, target, if target.isDead then none else source.forwardDuty⟩
  else
    none

/-- Every edge, by source and then by target. -/
def all : List Edge :=
  State.all.flatMap fun source => State.all.filterMap fun target => between? source target

theorem between?_dead (source : State) : between? source .dead = some ⟨source, .dead, none⟩ := by
  cases source <;> rfl

end Edge

/-- The edge from `source` to `target`, or the refusal that names both. -/
def State.move (source target : State) : Except IllegalMove Edge :=
  match Edge.between? source target with
  | some edge => .ok edge
  | none => .error ⟨source, target⟩

/-- A request of `dead` is never refused. -/
theorem State.move_dead (source : State) : source.move .dead = .ok ⟨source, .dead, none⟩ := by
  rw [move, Edge.between?_dead]

end Tenure
