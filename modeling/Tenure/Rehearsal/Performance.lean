import Tenure.Event.Bus
import Tenure.Rehearsal.Stage

/-!
# Performing a script

Operations are performed on the stage; those of hooks are performed inside a call, one level
deeper. Each hook acts on one pass of its point only, so no more levels are ever used than there
are hooks.
-/
namespace Tenure.Rehearsal

open Lifecycle (Blocked Grant Program Timer)

/-- Runs a program of the replica; `none` if it unwinds. -/
def play {α : Type} (reactor : Reactor) (program : Program α) : Stage (Option α) :=
  program.run (handler reactor)

/-- Runs a program with the answer that its outcome gives. -/
def playFor {α : Type} (reactor : Reactor) (program : Program α) (toAnswer : α → Answer) :
    Stage (Option Answer) := do
  return (← play reactor program).map toAnswer

def ofOutcome : Lifecycle.Outcome → Answer
  | .ok () => .ok
  | .error e => .refused (.lifecycle e)

def ofStorage {α : Type} (toAnswer : α → Answer) : Except StorageError α → Answer
  | .ok a => toAnswer a
  | .error e => .refused (.storage e)

def snapshot : Stage Snapshot := do
  let shared := (← get).shared
  return ⟨shared.state, shared.acknowledged⟩

/-! ## Elections -/

def prepare (reactor : Reactor) : Stage (Option Answer) := do
  match ← play reactor Lifecycle.prepare with
  | none => return none
  | some outcome =>
    if outcome.isOk then modify fun w => { w with hasCandidate := true }
    return some (ofOutcome outcome)

/-- Makes a control of this name, unless there is one. -/
def ensureControl (name : String) (advertiseError leaveError : Option LeadershipError) :
    Stage Unit :=
  modify fun w =>
    if w.controls.any fun c => c.name = name then w
    else { w with controls := w.controls ++ [{ name, advertiseError, leaveError }] }

def lead (reactor : Reactor) (name : String) (advertiseError leaveError : Option LeadershipError) :
    Stage (Option Answer) := do
  if (← get).hasCandidate then
    ensureControl name advertiseError leaveError
    playFor reactor (Lifecycle.lead ⟨name⟩) ofOutcome
  else
    return some .noCandidate

def stepDown (reactor : Reactor) (status : Option EndpointStatus) : Stage (Option Answer) := do
  if (← get).hasCandidate then
    playFor reactor (Lifecycle.stepDown status) fun _ => .ok
  else
    return some .noCandidate

/-! ## Timers and joins -/

/-- Runs callbacks one after another; one that unwinds drops the rest. -/
def fireAll (reactor : Reactor) (program : Program Unit) : Nat → Stage Bool
  | 0 => return true
  | n + 1 => do
    match ← play reactor program with
    | none => return false
    | some () => fireAll reactor program n

def fire (reactor : Reactor) (program : Program Unit) (count : Nat) : Stage (Option Answer) := do
  return if ← fireAll reactor program count then some (.count count) else none

def spawnJoin : Stage Answer :=
  modifyGet fun w =>
    match w.joins with
    | [] => (.flag false, w)
    | driver :: rest => (.flag true, { w with joins := rest, spawned := w.spawned ++ [driver] })

/-- Lets every join in the background finish. A panic in one stays there. -/
def collect (reactor : Reactor) : Stage Nat := do
  let spawned := (← get).spawned
  modify fun w => { w with spawned := [] }
  for driver in spawned do
    discard <| play reactor (Timer.join driver).callback
  return spawned.length

def driverExit (reactor : Reactor) (status : DriverStatus) : Stage Answer := do
  match (← get).drivers.length with
  | 0 => return .noDriver
  | n + 1 =>
    updateDriver ⟨n⟩ (exitDriver status)
    return .joined (← collect reactor)

def drive (use : Lifecycle.DriverId → Stage (Option DriverStatus)) : Stage (Option Answer) := do
  match (← get).shared.driver with
  | none => return some (.status none)
  | some driver => return (← use driver).map fun status => .status (some status)

/-- Moves the clock on and runs what is due. A panic in a callback is logged and stays there. -/
def advance (reactor : Reactor) (millis : Nat) : Stage Answer := do
  let due ← modifyGet fun w =>
    let (due, agenda) := w.agenda.advance (Duration.ofMillis millis).nanos
    (due, { w with agenda })
  for timer in due do
    if (← play reactor timer.callback).isNone then
      record (Log.error "delayed action panicked" [])
  return .ok

/-- Joins that began to wait when they were armed finish as soon as their drivers have exited. -/
def settle (reactor : Reactor) : Stage Unit := do
  let w ← get
  let (exited, attached) := w.attached.partition fun driver =>
    (w.drivers[driver.index]?.bind Driver.exitStatus).isSome
  set { w with attached }
  for driver in exited do
    discard <| play reactor (Timer.join driver).callback

/-! ## Several callers and messages -/

/-- Requests a state for one caller after another: how many succeed, and how many fail. -/
def race (reactor : Reactor) (target : State) : Nat → Stage (Nat × Nat)
  | 0 => return (0, 0)
  | n + 1 => do
    let outcome ← play reactor (Lifecycle.request target)
    let (succeeded, failed) ← race reactor target n
    match outcome with
    | some (.ok ()) => return (succeeded + 1, failed)
    | _ => return (succeeded, failed + 1)

/-- Hands on to the replica what a subscriber of the bus gets. -/
def deliverOne (reactor : Reactor) : Bus.Received Event → Stage Unit
  | .message (.driverRegistered frameworkId) => do
    match ← play reactor (Lifecycle.registered frameworkId) with
    | some (.ok ()) => pure ()
    | some (.error e) => record (Log.warn "registration event rejected" [("error", e.message)])
    | none => record (Log.error "registration handler panicked" [])
  | .message .schedulerActive => pure ()
  | .lagged missed =>
    record (Log.warn "lifecycle subscriber lagged behind event bus" [("skipped", toString missed)])
  | .empty | .closed => pure ()

def deliver (reactor : Reactor) (events : List Event) (capacity : Nat) :
    Stage (Option Answer) := do
  match Bus.new? (α := Event) capacity with
  | none => return none
  | some bus =>
    let bus := events.foldl Bus.post bus.subscribe.2
    for received in bus.drain 0 do
      deliverOne reactor received
    record (Log.debug "lifecycle subscriber stopped" [])
    return some .ok

/-! ## Operations -/

def perform (reactor : Reactor) : Operation → Stage (Option Answer)
  | .prepare => prepare reactor
  | .request target => playFor reactor (Lifecycle.request target) ofOutcome
  | .registered frameworkId => playFor reactor (Lifecycle.registered frameworkId) ofOutcome
  | .lead name advertiseError leaveError => lead reactor name advertiseError leaveError
  | .stepDown status => stepDown reactor status
  | .fireRegistration => do
    let count := (← get).pending.registration
    modify fun w => { w with pending := { w.pending with registration := 0 } }
    fire reactor Lifecycle.registrationDue count
  | .fireFailover => do
    let count := (← get).pending.failover
    modify fun w => { w with pending := { w.pending with failover := 0 } }
    fire reactor Lifecycle.failoverDue count
  | .spawnJoin => some <$> spawnJoin
  | .driverExit status => some <$> driverExit reactor status
  | .collect => do return some (.joined (← collect reactor))
  | .driverReference => do return some (.reference (← get).shared.driver.isSome)
  | .driverStart => drive fun driver => answer reactor (.startDriver driver)
  | .driverStop => drive fun driver => answer reactor (.stopDriver driver)
  | .gauges => do return some (.snapshot (← snapshot))
  | .metrics => do return some (.text (← snapshot).exposition)
  | .http method uri => do return some (.response (Api.respond (← snapshot) method uri))
  | .readFrameworkId => do return (← readFrameworkId reactor).map (ofStorage .identity)
  | .saveFrameworkId id => do
    return (← startStorage reactor (save reactor id)).map (ofStorage fun _ => .stored)
  | .backfill => do
    return (← startStorage reactor (backfill reactor)).map (ofStorage .repaired)
  | .storagePrepare => do
    return (← prepareStorage reactor).map (ofStorage fun _ => .stored)
  | .storageStop => do return (← stopStorage reactor).map (ofStorage fun _ => .stored)
  | .race callers target => do
    let (succeeded, failed) ← race reactor target callers
    return some (.raced succeeded failed)
  | .deliver events capacity => deliver reactor events capacity
  | .advance millis => some <$> advance reactor millis
  | .panic => return none

/-- Performs an operation with as many levels of hooks below it as `depth` says. -/
def performAt : Nat → Reactor
  | 0 => perform fun _ => return none
  | depth + 1 => perform (performAt depth)

/-! ## Steps -/

def step (operation : Operation) : Stage Step := do
  let reactor := performAt (← MonadReader.read).hooks.length
  let outcome ← reactor operation
  settle reactor
  let w ← get
  set { w with marks := [] }
  return { answer := outcome.getD .panicked
           state := w.shared.state
           registered := w.shared.acknowledged
           marks := w.marks.reverse }

def World.final (w : World) : Final where
  shutdowns := w.shutdowns
  events := w.events
  drivers := w.drivers
  controls := w.controls
  pending := { w.pending with joins := w.joins.length }
  rig := w.rig

/-- Makes the replica. -/
def begin : Stage Unit := do
  if let some limits := (← MonadReader.read).limits then
    record (configuredEntry limits)

def performAll (operations : List Operation) : Stage (List Step) := do
  begin
  operations.mapM step

/-- Performs a script from a fresh replica. -/
def Script.perform (script : Script) : Except Blocked Report :=
  match ((performAll script.steps).run script).run { rig := script.rig } with
  | .ok steps w => .ok ⟨steps, w.final⟩
  | .error e _ => .error e

end Tenure.Rehearsal
