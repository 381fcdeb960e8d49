import Tenure.Event
import Tenure.Error
import Tenure.Limits
import Tenure.Status
import Tenure.Storage.Volatile
import Tenure.Storage.Durable

/-!
# Scripts for a rehearsal

In a rehearsal a replica is led through a script: a list of operations, with hooks that say
what else happens, or fails, while an operation is under way.
-/
namespace Tenure.Rehearsal

inductive Operation where
  | prepare
  | request (target : State)
  | registered (frameworkId : String)
  /-- Grants leadership with the control of this name, which is made on its first use. -/
  | lead (control : String) (advertiseError leaveError : Option LeadershipError)
  | stepDown (status : Option EndpointStatus)
  | fireRegistration
  | fireFailover
  /-- Lets the oldest pending driver join wait in the background. -/
  | spawnJoin
  | driverExit (status : DriverStatus)
  /-- Waits for the joins in the background. -/
  | collect
  | driverReference
  | driverStart
  | driverStop
  | gauges
  | metrics
  | http (method uri : String)
  | readFrameworkId
  | saveFrameworkId (id : String)
  | backfill
  | storagePrepare
  | storageStop
  /-- Several callers request the same state at once. -/
  | race (callers : Nat) (target : State)
  /-- Delivers events over a bus that closes behind them. -/
  | deliver (events : List Event) (capacity : Nat)
  | advance (millis : Nat)
  /-- Panics at this point; only for hooks. -/
  | panic

def Operation.name : Operation → String
  | prepare => "prepare"
  | request _ => "transition"
  | registered _ => "registered"
  | lead _ _ _ => "on_leading"
  | stepDown _ => "on_defeated"
  | fireRegistration => "fire_registration"
  | fireFailover => "fire_failover"
  | spawnJoin => "spawn_join"
  | driverExit _ => "driver_exit"
  | collect => "collect"
  | driverReference => "driver_ref"
  | driverStart => "driver_start"
  | driverStop => "driver_stop"
  | gauges => "gauges"
  | metrics => "metrics"
  | http _ _ => "http"
  | readFrameworkId => "read_framework_id"
  | saveFrameworkId _ => "save_framework_id"
  | backfill => "backfill"
  | storagePrepare => "storage_prepare"
  | storageStop => "storage_stop"
  | race _ _ => "race"
  | deliver _ _ => "deliver"
  | advance _ => "advance"
  | panic => "panic"

/-- An error of one of the parts. -/
inductive Failure where
  | lifecycle (e : LifecycleError)
  | storage (e : StorageError)
  | leadership (e : LeadershipError)

def Failure.storage? : Failure → Option StorageError
  | storage e => some e
  | _ => none

def Failure.leadership? : Failure → Option LeadershipError
  | leadership e => some e
  | _ => none

/-- What happens on the `pass`-th pass of a point: the operations, then the failure of the call
that the point belongs to. -/
structure Hook where
  point : String
  pass : Nat
  operations : List Operation
  failure : Option Failure

inductive Rig where
  | volatile (v : Volatile)
  | durable (d : Durable)

structure Script where
  rig : Rig
  /-- How often the storage runs reading work. -/
  readRuns : Nat
  hooks : List Hook
  /-- Whether log entries are reported. -/
  logged : Bool
  /-- The limits that timers run by. Without them, timers only run when they are fired. -/
  limits : Option Limits
  steps : List Operation

end Tenure.Rehearsal
