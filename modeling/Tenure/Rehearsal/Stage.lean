import Tenure.Agenda
import Tenure.Lifecycle.Operations
import Tenure.Rehearsal.Report

/-!
# The stage of a rehearsal

The collaborators of a rehearsed replica keep count of their calls and leave marks. Each call
passes one or two points, and hooks at these points may use the replica, make the call fail,
or panic.
-/
namespace Tenure.Rehearsal

open Lifecycle (Access Blocked Call DriverId Grant Notice Program Timer)

structure World where
  rig : Rig
  shared : Lifecycle.Shared := {}
  hasCandidate : Bool := false
  controls : List Control := []
  drivers : List Driver := []
  pending : Pending := {}
  /-- The drivers of the joins that have not been spawned, oldest first. -/
  joins : List DriverId := []
  /-- The drivers of the joins that wait in the background. -/
  spawned : List DriverId := []
  /-- The drivers of the joins that began to wait when they were armed. -/
  attached : List DriverId := []
  /-- The timers that run by the clock, in nanoseconds. -/
  agenda : Agenda Timer := {}
  events : List Event := []
  shutdowns : Nat := 0
  passes : List (String × Nat) := []
  /-- The marks since the last step, latest first. -/
  marks : List Mark := []

abbrev Stage := ReaderT Script (EStateM Blocked World)

/-- Does an operation; `none` if it unwinds. -/
abbrev Reactor := Operation → Stage (Option Answer)

def mark (m : Mark) : Stage Unit := modify fun w => { w with marks := m :: w.marks }

def record (entry : Log.Entry) : Stage Unit := do
  if (← read).logged then mark (.logged entry)

def touch (a : Access) : Stage a.Answer := do
  match a.apply (← get).shared with
  | some (answer, shared) =>
    modify fun w => { w with shared }
    return answer
  | none => throw .blocked

/-- Uses the storage, whichever it is. -/
def withRig {α : Type} (use : {σ : Type} → Storage σ → StateM σ α) : Stage α :=
  modifyGet fun w =>
    match w.rig with
    | .volatile v =>
      let (a, v) := use Volatile.storage v
      (a, { w with rig := .volatile v })
    | .durable d =>
      let (a, d) := use Durable.storage d
      (a, { w with rig := .durable d })

/-! ## Points -/

/-- Counts a pass of a point, and gives the number of it. -/
def countPass (point : String) : Stage Nat :=
  modifyGet fun w =>
    let n := (w.passes.lookup point).getD 0 + 1
    (n, { w with passes := (point, n) :: w.passes.filter fun entry => entry.1 ≠ point })

/-- Does the operations of hooks in order; `false` if one of them unwinds. -/
def react (reactor : Reactor) (point : String) : List Operation → Stage Bool
  | [] => return true
  | .panic :: _ => do
    mark (.panicked point)
    return false
  | operation :: rest => do
    match ← reactor operation with
    | none => return false
    | some answer =>
      mark (.reacted point operation.name answer (← get).shared.state)
      react reactor point rest

/-- Passes a point. Gives `none` if a hook panics, else the failure that hooks ask for. -/
def pass (reactor : Reactor) (point : String) : Stage (Option (Option Failure)) := do
  let n ← countPass point
  let hooks := (← read).hooks.filter fun hook => hook.point = point ∧ hook.pass = n
  if ← react reactor point (hooks.flatMap Hook.operations) then
    return some (hooks.findSome? Hook.failure)
  else
    return none

/-- Passes a point of a call that cannot fail. -/
def passThen {α : Type} (reactor : Reactor) (point : String) (next : Stage α) :
    Stage (Option α) := do
  match ← pass reactor point with
  | none => return none
  | some _ => return some (← next)

/-- An error that a call can end with. -/
class CallError (ε : Type) where
  toFailure : ε → Failure
  ofFailure? : Failure → Option ε

instance : CallError StorageError := ⟨.storage, Failure.storage?⟩

instance : CallError LeadershipError := ⟨.leadership, Failure.leadership?⟩

variable {ε α : Type} [CallError ε]

/-- Replaces a result by the failure that hooks ask for. -/
def overrule (failure : Option Failure) (result : Except ε α) : Except ε α :=
  match failure.bind CallError.ofFailure? with
  | some e => .error e
  | none => result

section Call

universe u

-- The body of a call is done on the stage, or is a plan that is carried out there.
variable {n : Type → Type u} [Monad n] [MonadLiftT Stage n]

/-- A call that can fail, with a point before its body. A failure asked for there keeps the body
from running. -/
def guarded (reactor : Reactor) (point : String) (body : n (Option (Except ε α))) :
    n (Option (Except ε α)) := do
  mark (.entered point)
  match ← pass reactor point with
  | none => return none
  | some failure =>
    let result ← match failure.bind CallError.ofFailure? with
      | some e => pure (some (.error e))
      | none => body
    if let some (.error e) := result then
      mark (.failed point (CallError.toFailure e))
    return result

/-- A call with a second point after its body. A failure asked for there replaces the result. -/
def bracketed (reactor : Reactor) (point : String) (body : n (Option (Except ε α))) :
    n (Option (Except ε α)) := do
  match ← guarded reactor point body with
  | none => return none
  | some result =>
    match ← pass reactor (point ++ ".end") with
    | none => return none
    | some failure => return some (overrule failure result)

end Call

/-! ## Storage -/

def fetch (reactor : Reactor) : Stage (Option (Except StorageError (Option String))) :=
  bracketed reactor "store.fetch" (some <$> withRig fun storage => storage.fetch)

def save (reactor : Reactor) (id : String) : Stage (Option (Except StorageError Unit)) :=
  bracketed reactor "store.save" (some <$> withRig fun storage => storage.save id)

def backfill (reactor : Reactor) : Stage (Option (Except StorageError Nat)) :=
  bracketed reactor "store.backfill" (some <$> withRig fun storage => storage.backfill)

def prepareStorage (reactor : Reactor) : Stage (Option (Except StorageError Unit)) :=
  bracketed reactor "storage.prepare" (some <$> withRig fun storage => storage.prepare)

def stopStorage (reactor : Reactor) : Stage (Option (Except StorageError Unit)) :=
  bracketed reactor "storage.stop" (some <$> withRig fun storage => storage.stop)

/-- Runs changing work in the storage. -/
def startStorage {β : Type} (reactor : Reactor) (work : Stage (Option (Except StorageError β))) :
    Stage (Option (Except StorageError β)) :=
  bracketed reactor "storage.start" do
    match ← withRig fun storage => storage.permit with
    | .ok () => work
    | .error e => return some (.error e)

/-- The repair that a replica runs when it takes the lead. -/
def repair (reactor : Reactor) : Stage (Option (Except StorageError Unit)) := do
  match ← backfill reactor with
  | none => return none
  | some (.error e) => return some (.error e)
  | some (.ok count) =>
    record (Lifecycle.repairedEntry count)
    return some (.ok ())

/-- What reading work sees of the storage: how the identity is fetched. -/
abbrev View := OptionT Stage (Except StorageError (Option String))

/-- The storage runs reading work as often as the script says. A hook that panics takes the whole
read with it. -/
def readingPlan (reactor : Reactor) :
    Storage.Plan (OptionT Stage) View (Except StorageError Unit) := do
  let result ← bracketed reactor "storage.read" do
    match ← withRig fun storage => storage.permitRead with
    | .error e => return some (.error e)
    | .ok () =>
      let runs := (← (MonadReader.read : Stage Script)).readRuns
      some <$> Storage.Plan.repeated (fetch reactor) runs
  (OptionT.mk (pure result) : OptionT Stage (Except StorageError Unit))

def readFrameworkId (reactor : Reactor) :
    Stage (Option (Except StorageError (Option String))) :=
  (Storage.readOnce (readingPlan reactor) id).run

/-! ## Drivers, grants and timers -/

def updateDriver (driver : DriverId) (f : Driver → Driver) : Stage Unit :=
  modify fun w => { w with drivers := w.drivers.modify driver.index f }

def createDriver (frameworkId : Option String) : Stage DriverId :=
  modifyGet fun w => (⟨w.drivers.length⟩, { w with drivers := w.drivers ++ [{ frameworkId }] })

/-- A driver that was stopped before does not run any more. -/
def startDriver (driver : DriverId) : Stage DriverStatus := do
  let stopped := ((← get).drivers[driver.index]?.map Driver.stops).getD 0 != 0
  updateDriver driver fun d =>
    { d with starts := d.starts + 1, lateStarts := d.lateStarts + if stopped then 1 else 0 }
  let status := if stopped then .stopped else .running
  mark (.driven "driver.start" (driver.index + 1) status)
  return status

/-- The first status that a driver exits with is kept. -/
def exitDriver (status : DriverStatus) (d : Driver) : Driver :=
  { d with exitStatus := some (d.exitStatus.getD status) }

def stopDriver (driver : DriverId) : Stage DriverStatus := do
  updateDriver driver fun d => exitDriver .stopped { d with stops := d.stops + 1 }
  mark (.driven "driver.stop" (driver.index + 1) .stopped)
  return .stopped

/-- A join is only run when its driver has exited. -/
def joinDriver (driver : DriverId) : Stage DriverStatus := do
  return ((← get).drivers[driver.index]?.bind Driver.exitStatus).getD .running

def takeControlError (grant : Grant) (use : Control → Option LeadershipError × Control) :
    Stage (Except LeadershipError Unit) :=
  modifyGet fun w =>
    match w.controls.find? fun c => c.name = grant.name with
    | none => (.ok (), w)
    | some control =>
      let (failure, control) := use control
      let controls := w.controls.map fun c => if c.name = grant.name then control else c
      (match failure with | some e => .error e | none => .ok (), { w with controls })

def advertise (grant : Grant) : Stage (Except LeadershipError Unit) :=
  takeControlError grant fun c =>
    (c.advertiseError, { c with advertises := c.advertises + 1, advertiseError := none })

def leave (grant : Grant) : Stage (Except LeadershipError Unit) :=
  takeControlError grant fun c =>
    (c.leaveError, { c with leaves := c.leaves + 1, leaveError := none })

def timerPoint : Timer → String
  | .registration => "timer.registration"
  | .failover => "timer.failover"
  | .join _ => "timer.join"

/-- Puts a timer down until it is fired. -/
def hold (timer : Timer) : Stage Unit :=
  modify fun w =>
    let pending := w.pending
    match timer with
    | .registration =>
      { w with pending := { pending with registration := pending.registration + 1 } }
    | .failover =>
      { w with pending := { pending with failover := pending.failover + 1 } }
    | .join driver => { w with joins := w.joins ++ [driver] }

/-- Logged when a replica is made whose timers run by the clock. -/
def configuredEntry (limits : Limits) : Log.Entry :=
  Log.info "scheduler lifecycle configured" [("options", limits.describe)]

/-- Logged when the timer for registration is armed. -/
def waitingEntry (limits : Limits) : Log.Entry :=
  Log.info "giving up on registration after limit" [("limit", limits.registration.text)]

/-- Starts a timer on the clock; a join begins to wait at once. -/
def startTimer (limits : Limits) : Timer → Stage Unit
  | .registration => do
    record (waitingEntry limits)
    modify fun w =>
      { w with agenda := w.agenda.schedule limits.registration.nanos .registration }
  | .failover =>
    modify fun w => { w with agenda := w.agenda.schedule limits.leading.nanos .failover }
  | .join driver => modify fun w => { w with attached := w.attached ++ [driver] }

def arm (reactor : Reactor) (timer : Timer) : Stage (Option Unit) := do
  match (← MonadReader.read).limits with
  | some limits =>
    startTimer limits timer
    return some ()
  | none =>
    hold timer
    mark (.entered (timerPoint timer))
    passThen reactor (timerPoint timer) (pure ())

/-! ## All calls -/

def noticePoint : Notice → String
  | .installed state => "installed." ++ state.label
  | .grantRefused => "grant.rejected"

def answer (reactor : Reactor) : (c : Call) → Stage (Option c.Answer)
  | .prepareStorage => prepareStorage reactor
  | .repairStorage => startStorage reactor (repair reactor)
  | .readFrameworkId => readFrameworkId reactor
  | .stopStorage => stopStorage reactor
  | .createDriver frameworkId => do
    mark (.created frameworkId)
    passThen reactor "factory.create" (createDriver frameworkId)
  | .startDriver driver => passThen reactor "driver.start" (startDriver driver)
  | .joinDriver driver => some <$> joinDriver driver
  | .stopDriver driver => passThen reactor "driver.stop" (stopDriver driver)
  | .advertise grant =>
    guarded reactor ("control." ++ grant.name ++ ".advertise") (some <$> advertise grant)
  | .leave grant => guarded reactor ("control." ++ grant.name ++ ".leave") (some <$> leave grant)
  | .arm timer => arm reactor timer
  | .post event => do
    mark (.posted event)
    modify fun w => { w with events := w.events ++ [event] }
    passThen reactor "events.post" (pure ())
  | .shutdown => do
    modify fun w => { w with shutdowns := w.shutdowns + 1 }
    mark (.entered "shutdown")
    passThen reactor "shutdown" (pure ())
  | .notice notice => passThen reactor (noticePoint notice) (pure ())

def handler (reactor : Reactor) : Program.Handler Stage where
  access := touch
  note := record
  call := answer reactor

end Tenure.Rehearsal
