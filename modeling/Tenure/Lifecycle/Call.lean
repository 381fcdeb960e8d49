import Tenure.Error
import Tenure.Event
import Tenure.Lifecycle.Access
import Tenure.Status

/-!
# Calls to the collaborators

What a replica asks of the parts around it. A call may take its time, and whoever answers it
may use the replica meanwhile.
-/
namespace Tenure.Lifecycle

/-- What is put down to happen later. -/
inductive Timer where
  /-- Dies if registration has not been acknowledged in time. -/
  | registration
  /-- Ends the leadership that has lasted long enough. -/
  | failover
  /-- Waits for a driver to exit, and dies with it. -/
  | join (driver : DriverId)
  deriving DecidableEq

/-- A moment that is made known while an operation is under way. -/
inductive Notice where
  /-- The state has just been installed; the work of the move comes after. -/
  | installed (state : State)
  /-- A grant has just been refused, and is still in the slot. -/
  | grantRefused
  deriving DecidableEq

inductive Call where
  | prepareStorage
  /-- Runs the repair of old records in the storage. -/
  | repairStorage
  /-- Reads the identity that the framework was registered under. -/
  | readFrameworkId
  | stopStorage
  | createDriver (frameworkId : Option String)
  | startDriver (driver : DriverId)
  | joinDriver (driver : DriverId)
  | stopDriver (driver : DriverId)
  | advertise (grant : Grant)
  | leave (grant : Grant)
  | arm (timer : Timer)
  | post (event : Event)
  /-- Signals to the process that the replica is dead. -/
  | shutdown
  | notice (notice : Notice)
  deriving DecidableEq

@[reducible] def Call.Answer : Call → Type
  | prepareStorage => Except StorageError Unit
  | repairStorage => Except StorageError Unit
  | readFrameworkId => Except StorageError (Option String)
  | stopStorage => Except StorageError Unit
  | createDriver _ => DriverId
  | startDriver _ => DriverStatus
  | joinDriver _ => DriverStatus
  | stopDriver _ => DriverStatus
  | advertise _ => Except LeadershipError Unit
  | leave _ => Except LeadershipError Unit
  | arm _ => Unit
  | post _ => Unit
  | shutdown => Unit
  | notice _ => Unit

end Tenure.Lifecycle
