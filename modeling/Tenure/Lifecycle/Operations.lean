import Tenure.Lifecycle.Program

/-!
# Operations of a replica

What can be asked of a replica, as programs. A request installs its target, does the work of
the move, and tears the replica down if the target is `dead`. Everything else ends in requests:
an election grants or takes leadership, the resource manager confirms registration, timers run
out, and a driver exits.

`tearDown` is the only place that stops the driver and the storage and signals shutdown, and
only one caller ever gets past its first step.
-/
namespace Tenure.Lifecycle

open Program Log

/-- How an operation ends. -/
abbrev Outcome := Except LifecycleError Unit

/-! ## Teardown -/

/-- Gives up a grant that was taken out of the slot. -/
def leaveGroup : Option Grant → Program Unit
  | some grant => do
    match ← ask (.leave grant) with
    | .ok () => log (info "left leadership" [])
    | .error e => log (warn "failed to leave leadership" [("error", e.message)])
  | none => log (debug "no leader control to release" [])

def stopDriver : Option DriverId → Program Unit
  | some driver => do
    let status ← ask (.stopDriver driver)
    log (info "driver stopped" [("status", status.debugName)])
  | none => log (debug "no driver to stop" [])

def stopStorage : Program Unit := do
  match ← ask .stopStorage with
  | .ok () => pure ()
  | .error e => log (warn "failed to stop storage" [("error", e.exactMessage)])

/-- The steps of a teardown before its signal. Each runs even if an earlier one fails. -/
def dismantle : Program Unit := do
  leaveGroup (← touch .takeSlot)
  withLock .driver do stopDriver (← touch .readDriver)
  stopStorage
  touch (.setAcknowledged false)
  log (info "teardown complete, signalling process shutdown" [])

/-- Runs once; whatever becomes of its steps, the process is signalled. -/
def tearDown : Program Unit := do
  if ← touch .claimTeardown then
    dismantle.ensure (ask .shutdown)
  else
    log (info "shutdown already invoked, ignoring extra call" [])

/-! ## Requests -/

def machineName : String := "SchedulerLifecycle"

/-- Requests a state; `act` does the work of a move. -/
def requestWith (act : Duty → Program Outcome) (target : State) : Program Outcome := do
  match ← touch (.install target) with
  | .error move => return .error (.illegalMove move)
  | .ok edge =>
    log (info "lifecycle transition"
      [("machine", machineName), ("from", edge.source.label), ("to", edge.target.label)])
    ask (.notice (.installed edge.target))
    let outcome ← match edge.duty with
      | some duty => act duty
      | none => pure (.ok ())
    if edge.target.isDead then tearDown
    return outcome

/-- Requests a state to which no move calls for work. -/
def requestPlain (target : State) : Program Outcome := requestWith (fun _ => pure (.ok ())) target

/-- Requests `dead`, which is never refused. -/
def kill (reason : String) : Program Unit := do
  log (debug "requesting lifecycle shutdown" [("reason", reason)])
  match ← requestPlain .dead with
  | .ok () => pure ()
  | .error e =>
    log (warn "transition to DEAD rejected" [("error", e.message), ("reason", reason)])

/-! ## The work of a move -/

/-- A replica that died while its storage was made ready was terminated. -/
def prepareStorage : Program Outcome := do
  match ← ask .prepareStorage with
  | .ok () =>
    match ← requestPlain .storagePrepared with
    | .error (.illegalMove ⟨.dead, _⟩) => return .error .terminated
    | outcome => return outcome
  | .error e =>
    log (error "storage preparation failed, shutting down" [("error", e.exactMessage)])
    kill "storage preparation failed"
    return .error (.storageInitialization e)

/-- Logged inside the repair of the storage, once it has counted what it repaired. -/
def repairedEntry (count : Nat) : Entry :=
  info "storage backfill complete" [("repaired", toString count)]

def identityEntry : Option String → Entry
  | some id => info "resuming framework registration" [("framework_id", id)]
  | none => info "no persisted framework id, registering a new framework" []

/-- Starts the driver, unless leadership was lost while it was being built. -/
def startUnlessDead (driver : DriverId) : Program Bool := do
  if (← touch .readState).isDead then
    log (warn "lifecycle died while taking leadership, not starting driver" [])
    return false
  let status ← ask (.startDriver driver)
  log (info "driver started" [("status", status.debugName)])
  return true

/-- Brings up a driver that resumes the given identity. -/
def bringUpDriver (frameworkId : Option String) : Program Unit := do
  log (identityEntry frameworkId)
  let driver ← ask (.createDriver frameworkId)
  touch (.publishDriver driver)
  ask (.arm .registration)
  ask (.arm .failover)
  if ← withLock .driver (startUnlessDead driver) then
    ask (.arm (.join driver))

def takeLead : Program Unit := do
  log (info "elected as leading scheduler" [])
  match ← ask .repairStorage with
  | .error e =>
    log (error "failed to start storage, shutting down" [("error", e.exactMessage)])
    kill "storage start failed"
  | .ok () =>
    match ← ask .readFrameworkId with
    | .error e =>
      log (error "failed to read framework id, shutting down" [("error", e.exactMessage)])
      kill "framework id read failed"
    | .ok frameworkId => bringUpDriver frameworkId

/-- Sets the flag unless a teardown has begun. A teardown clears the flag after it has installed
`dead`, so a second look covers one that went by in between. -/
def acknowledge : Program Bool := do
  if (← touch .readState).isDead then return false
  touch (.setAcknowledged true)
  if (← touch .readState).isDead then
    touch (.setAcknowledged false)
    return false
  return true

def advertise (grant : Grant) : Program Unit := do
  match ← ask (.advertise grant) with
  | .ok () => log (info "advertised leading scheduler" [])
  | .error .interrupted =>
    log (error "interrupted while advertising leader, shutting down" [])
    kill "advertise interrupted"
  | .error e =>
    log (error "failed to advertise leader, shutting down" [("error", e.message)])
    kill "advertise failed"

def confirmRegistration : Program Unit := do
  if ← acknowledge then
    ask (.post .schedulerActive)
    match ← touch .readSlot with
    | some grant => advertise grant
    | none =>
      log (error "registered without a leader control handle, shutting down" [])
      kill "no leader control"
  else
    log (debug "registration arrived after shutdown, ignoring" [])

def work : Duty → Program Outcome
  | .prepareStorage => prepareStorage
  | .takeLead => do
    takeLead
    return .ok ()
  | .confirmRegistration => do
    confirmRegistration
    return .ok ()

/-! ## What can be asked of a replica -/

/-- Requests a state directly. -/
def request (target : State) : Program Outcome := requestWith work target

/-- Makes the replica ready to stand for election. -/
def prepare : Program Outcome := request .preparingStorage

/-- Gives up a grant that is not to be held. -/
def release (grant : Grant) : Program Unit := do
  match ← ask (.leave grant) with
  | .ok () => pure ()
  | .error e =>
    log (warn "failed to release rejected leadership grant" [("error", e.message)])

def releaseIfAny : Option Grant → Program Unit
  | some grant => release grant
  | none => pure ()

/-- Takes up a grant that has been put into the slot in place of `previous`. -/
def takeUp (grant : Grant) (previous : Option Grant) : Program Outcome := do
  match ← request .leaderAwaitingRegistration with
  | .error e =>
    log (warn "leadership granted in an unexpected state" [("error", e.message)])
    ask (.notice .grantRefused)
    releaseIfAny (← touch (.withdraw grant previous))
    return .error e
  | .ok () =>
    match previous with
    | some stale =>
      log (warn "replaced a leader control handle that was still held" [])
      release stale
    | none => pure ()
    return .ok ()

/-- The election has granted leadership. Grants are taken up one at a time, so only a teardown
competes for the slot. -/
def lead (grant : Grant) : Program Outcome :=
  withLock .grants do takeUp grant (← touch (.replaceSlot grant))

/-- The election has given leadership to another replica. -/
def stepDown (status : Option EndpointStatus) : Program Unit := do
  log (error "lost leadership, shutting down" [("status", EndpointStatus.debugOption status)])
  kill "leadership lost"

/-- The resource manager has confirmed registration. -/
def registered (frameworkId : String) : Program Outcome := do
  log (info "framework registered" [("framework_id", frameworkId)])
  request .registeredLeader

/-! ## What happens when time is up -/

def registrationDue : Program Unit := do
  if ← touch .readAcknowledged then
    log (debug "framework registered within the tolerated delay" [])
  else if (← touch .readState).isDead then pure ()
  else
    log (error "framework has not been registered within the tolerated delay" [])
    kill "registration timeout"

def failoverDue : Program Unit := do
  if (← touch .readState).isDead then pure ()
  else
    log (info "triggering automatic failover" [])
    kill "automatic failover"

def driverExit (driver : DriverId) : Program Unit := do
  let status ← ask (.joinDriver driver)
  log (info "driver exited" [("status", status.debugName)])
  kill "driver exited"

def Timer.callback : Timer → Program Unit
  | registration => registrationDue
  | failover => failoverDue
  | join driver => driverExit driver

end Tenure.Lifecycle
