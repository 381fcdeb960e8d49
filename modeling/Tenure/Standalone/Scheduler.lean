import Tenure.Agenda
import Tenure.Config
import Tenure.Event.Bus
import Tenure.Lifecycle.Operations
import Tenure.Standalone.Control
import Tenure.Standalone.Driver
import Tenure.Storage.Durable

/-!
# A scheduler on its own

A replica with a store of its own, local drivers and an election without competitors. What it
posts goes over a bus back to the replica: a registration is confirmed, and a confirmed leader
becomes active.

An operation runs to its end before anything else happens. `settle` then lets happen what the
operation has set off: messages are delivered, joins of drivers that are over come to an end,
and timers that are due run.
-/
namespace Tenure.Standalone

open Lifecycle (Access Blocked Call DriverId Grant Outcome Program Timer)

structure Scheduler where
  limits : Limits
  storage : Durable
  fleet : Fleet
  replica : Lifecycle.Shared := {}
  /-- The handles of all grants so far. -/
  controls : List (Grant × Control) := []
  bus : Bus Event
  agenda : Agenda Timer := {}
  /-- The drivers that joins wait for. -/
  joins : List DriverId := []
  /-- Whether shutdown has been signalled. -/
  stopped : Bool := false

namespace Scheduler

/-- The receivers of the bus: one confirms registrations, one makes the leader active. -/
def registrations : Nat := 0

def activations : Nat := 1

/-- A bus with both receivers. -/
def freshBus : Bus Event :=
  let bus : Bus Event := { capacity := Bus.roundUp Bus.defaultCapacity }
  bus.subscribe.2.subscribe.2

def assemble (config : Config) (storage : Durable) (stamp : Stamp) :
    Except LifecycleError Scheduler := do
  let limits ← config.limits
  return { limits
           storage
           fleet := { name := config.scheduler.frameworkName, stamp }
           bus := freshBus }

/-- A scheduler begins at the storage that it is given, without drivers. Its bus is empty. -/
theorem of_assemble {config : Config} {storage : Durable} {stamp : Stamp} {s : Scheduler}
    (h : (assemble config storage stamp).toOption = some s) :
    s.storage = storage ∧ s.fleet.drivers = [] ∧ s.bus = freshBus := by
  rw [assemble] at h
  cases limits : config.limits with
  | error e => rw [limits] at h; cases h
  | ok l =>
    rw [limits] at h
    cases h
    exact ⟨rfl, rfl, rfl⟩

/-- A scheduler begins without handles. -/
theorem controls_of_assemble {config : Config} {storage : Durable} {stamp : Stamp} {s : Scheduler}
    (h : (assemble config storage stamp).toOption = some s) : s.controls = [] := by
  rw [assemble] at h
  cases limits : config.limits with
  | error e => rw [limits] at h; cases h
  | ok l =>
    rw [limits] at h
    cases h
    rfl

abbrev Act := EStateM Blocked Scheduler

/-! ## Collaborators -/

def onStorage {α : Type} (use : StateM Durable α) : Act α :=
  modifyGet fun s =>
    let (a, storage) := use s.storage
    (a, { s with storage })

def post (event : Event) : Act Unit := modify fun s => { s with bus := s.bus.post event }

/-- Keeps a new registration, as far as the storage lets it, and makes it known. -/
def register (frameworkId : String) : Act Unit := do
  discard <| onStorage (Durable.saveFrameworkId frameworkId)
  post (.driverRegistered frameworkId)

def createDriver (frameworkId : Option String) : Act DriverId :=
  modifyGet fun s =>
    let (index, fleet) := s.fleet.create frameworkId
    (⟨index⟩, { s with fleet })

def startDriver (driver : DriverId) : Act DriverStatus := do
  match (← get).fleet.start driver.index with
  | none => return .notStarted
  | some (status, registered, fleet) =>
    modify fun s => { s with fleet }
    match registered with
    | some frameworkId => register frameworkId
    | none => pure ()
    return status

/-- A driver that is not started anew registers nothing. -/
theorem startDriver_of_unregistered {s : Scheduler} {driver : DriverId} {status : DriverStatus}
    {fleet : Fleet} (started : s.fleet.start driver.index = some (status, none, fleet)) :
    (startDriver driver).run s = .ok status { s with fleet } := by
  simp only [startDriver, EStateM.run_bind, EStateM.run_get, started]
  rfl

theorem startDriver_of_registered {s : Scheduler} {driver : DriverId} {status : DriverStatus}
    {id : String} {fleet : Fleet}
    (started : s.fleet.start driver.index = some (status, some id, fleet)) :
    (startDriver driver).run s = .ok status
      { s with
        fleet
        storage := ((Durable.saveFrameworkId id).run s.storage).2
        bus := s.bus.post (.driverRegistered id) } := by
  simp only [startDriver, EStateM.run_bind, EStateM.run_get, started]
  rfl

theorem startDriver_of_unknown {s : Scheduler} {driver : DriverId}
    (unknown : s.fleet.start driver.index = none) :
    (startDriver driver).run s = .ok .notStarted s := by
  simp only [startDriver, EStateM.run_bind, EStateM.run_get, unknown]
  rfl

def stopDriver (driver : DriverId) : Act DriverStatus := do
  modify fun s => { s with fleet := s.fleet.stop driver.index }
  return .stopped

def onControl (grant : Grant) (call : Control.Call) : Act (Except LeadershipError Unit) :=
  modifyGet fun s =>
    match s.controls.lookup grant with
    | none => (.ok (), s)
    | some control =>
      let (result, control) := control.use call
      let controls := s.controls.map fun entry =>
        if entry.1 = grant then (grant, control) else entry
      (result, { s with controls })

def arm (timer : Timer) : Act Unit :=
  modify fun s =>
    match timer with
    | .registration => { s with agenda := s.agenda.schedule s.limits.registration.nanos timer }
    | .failover => { s with agenda := s.agenda.schedule s.limits.leading.nanos timer }
    | .join driver => { s with joins := s.joins ++ [driver] }

def answer : (c : Call) → Act c.Answer
  | .prepareStorage => onStorage Durable.storage.prepare
  | .repairStorage =>
    onStorage (Durable.storage.start (.backfill fun result => .done (result.map fun _ => ())))
  | .readFrameworkId => onStorage (Durable.storage.read (.fetch .done))
  | .stopStorage => onStorage Durable.storage.stop
  | .createDriver frameworkId => createDriver frameworkId
  | .startDriver driver => startDriver driver
  | .joinDriver driver => do return ((← get).fleet.join? driver.index).getD .running
  | .stopDriver driver => stopDriver driver
  | .advertise grant => onControl grant .advertise
  | .leave grant => onControl grant .leave
  | .arm timer => arm timer
  | .post event => post event
  | .shutdown => modify fun s => { s with stopped := true }
  | .notice _ => return ()

def touch (a : Access) : Act a.Answer := do
  match a.apply (← get).replica with
  | some (result, replica) =>
    modify fun s => { s with replica }
    return result
  | none => throw .blocked

def handler : Program.Handler Act where
  access := touch
  note _ := return ()
  call c := some <$> answer c

/-- Runs an operation of the replica. None of the collaborators panics. -/
def run (operation : Program Outcome) : Act Outcome := do
  return (← operation.run handler).getD (.error .terminated)

def runCallback (timer : Timer) : Act Unit := discard <| timer.callback.run handler

/-! ## What happens by itself -/

def received (receiver : Nat) : Act (List (Bus.Received Event)) :=
  modifyGet fun s =>
    let (messages, bus) := s.bus.receiveAll receiver
    (messages, { s with bus })

def confirm : Bus.Received Event → Act Unit
  | .message (.driverRegistered frameworkId) => discard <| run (Lifecycle.registered frameworkId)
  | _ => return ()

def activate : Bus.Received Event → Act Unit
  | .message .schedulerActive => discard <| run (Lifecycle.request .active)
  | _ => return ()

def finishJoins : Act Unit := do
  let s ← get
  let (ready, waiting) := s.joins.partition fun driver => (s.fleet.join? driver.index).isSome
  set { s with joins := waiting }
  ready.forM fun driver => runCallback (.join driver)

/-- Moves the clock on and runs the timers that are due by then. -/
def advance (span : Nat) : Act Unit := do
  let due ← modifyGet fun s =>
    let (due, agenda) := s.agenda.advance span
    (due, { s with agenda })
  due.forM runCallback

def settle : Act Unit := do
  (← received registrations).forM confirm
  (← received activations).forM activate
  finishJoins
  advance 0

/-- Lets time pass until a goal is reached, or nothing more is due. -/
def waitAtMost (goal : Scheduler → Bool) : Nat → Act Bool
  | 0 => return goal (← get)
  | rounds + 1 => do
    let s ← get
    if goal s then return true
    match s.agenda.nextDue? with
    | none => return false
    | some due =>
      advance (due - s.agenda.now)
      settle
      waitAtMost goal rounds

def waitFor (goal : Scheduler → Bool) : Act Bool := do
  waitAtMost goal (← get).agenda.entries.length

/-! ## Operations -/

def newGrant (endpoint : String) : Act Grant :=
  modifyGet fun s =>
    let grant : Grant := ⟨toString s.controls.length⟩
    (grant, { s with controls := s.controls ++ [(grant, { endpoint })] })

/-- Makes the replica ready and lets it join the election. -/
def lead (endpoint : String) : Act (Except LifecycleError Grant) := do
  match ← run Lifecycle.prepare with
  | .error e => return .error e
  | .ok () =>
    let grant ← newGrant endpoint
    return (← run (Lifecycle.lead grant)).map fun () => grant

def stop : Act Unit := discard <| run (Lifecycle.request .dead)

def readFrameworkId : Act (Except StorageError (Option String)) := answer .readFrameworkId

/-- Stops the driver that the replica refers to, if there is one. -/
def stopReferredDriver : Act (Option DriverStatus) := do
  match (← get).replica.driver with
  | some driver => some <$> stopDriver driver
  | none => return none

end Scheduler
end Tenure.Standalone
