import Tenure.Api
import Tenure.Log
import Tenure.Rehearsal.Script

/-!
# Reports of a rehearsal

For each step: its answer, the state after it, and the marks that the collaborators left since
the step before, in order. In the end, what the collaborators have counted.
-/
namespace Tenure.Rehearsal

inductive Answer where
  | ok
  | refused (failure : Failure)
  | panicked
  | noCandidate
  | noDriver
  | count (n : Nat)
  | flag (b : Bool)
  | joined (n : Nat)
  | raced (succeeded failed : Nat)
  | reference (present : Bool)
  | status (status : Option DriverStatus)
  | snapshot (s : Snapshot)
  | text (s : String)
  | response (r : Api.Response)
  | identity (id : Option String)
  | stored
  | repaired (n : Nat)

inductive Mark where
  /-- A call was entered, or a timer armed. -/
  | entered (point : String)
  | created (frameworkId : Option String)
  | driven (point : String) (driver : Nat) (status : DriverStatus)
  | posted (event : Event)
  | failed (point : String) (failure : Failure)
  /-- A hook did an operation at a point. -/
  | reacted (point operation : String) (answer : Answer) (state : State)
  | panicked (point : String)
  | logged (entry : Log.Entry)

structure Step where
  answer : Answer
  state : State
  registered : Bool
  marks : List Mark

/-- What is known of the handle of a grant. -/
structure Control where
  name : String
  advertises : Nat := 0
  leaves : Nat := 0
  /-- The error of the next call, if it is to fail. -/
  advertiseError : Option LeadershipError := none
  leaveError : Option LeadershipError := none

structure Driver where
  frameworkId : Option String
  starts : Nat := 0
  stops : Nat := 0
  /-- Starts that came after a stop. -/
  lateStarts : Nat := 0
  exitStatus : Option DriverStatus := none

/-- How many timers are armed and have not run. -/
structure Pending where
  registration : Nat := 0
  failover : Nat := 0
  joins : Nat := 0

structure Final where
  shutdowns : Nat
  events : List Event
  drivers : List Driver
  controls : List Control
  pending : Pending
  rig : Rig

structure Report where
  steps : List Step
  final : Final

end Tenure.Rehearsal
