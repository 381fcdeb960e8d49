import Tenure.Api
import Tenure.Standalone.Scheduler

/-!
# Sessions with a scheduler

A session takes requests to a scheduler one after another, lets the scheduler settle after each
of them, and can start it anew at the same storage.
-/
namespace Tenure.Standalone

open Lifecycle (Blocked Grant)

structure Session where
  config : Config
  scheduler : Scheduler
  /-- The grant that was taken up last. -/
  grant : Option Grant := none
  /-- What was read when the identity was read last, if it has been read. -/
  identity : Option (Option String) := none

namespace Session

inductive Request where
  | lead (endpoint : String)
  /-- Waits until the replica is in a state. -/
  | await (state : State)
  /-- Waits until the handle of the grant that was taken up last is as given. -/
  | awaitControl (advertised left : Bool)
  | overview
  | frameworkId
  | http (method uri : String)
  | post (event : Event)
  | stopDriver
  | move (target : State)
  | stop
  /-- Waits until shutdown has been signalled. -/
  | awaitStop
  | restart

/-- What there is to see of a scheduler. -/
structure Overview where
  state : State
  registered : Bool
  hasDriver : Bool
  stopped : Bool

inductive Reply where
  | ok
  | refused (e : LifecycleError)
  | unreadable (e : StorageError)
  | reached (b : Bool)
  | overview (o : Overview)
  /-- An identity, and whether it is the one that was read before. -/
  | identity (id : Option String) (repeated : Bool)
  | response (r : Api.Response)
  | status (status : Option DriverStatus)

def start (config : Config) (storage : Durable) (stamp : Stamp) :
    Except LifecycleError Session := do
  return { config, scheduler := ← Scheduler.assemble config storage stamp }

abbrev Act := EStateM Blocked Session

/-- Lets the scheduler act. -/
def within {α : Type} (act : Scheduler.Act α) : Act α := fun s =>
  match act.run s.scheduler with
  | .ok a scheduler => .ok a { s with scheduler }
  | .error e scheduler => .error e { s with scheduler }

def ofOutcome {α : Type} : Except LifecycleError α → Reply
  | .ok _ => .ok
  | .error e => .refused e

def overview (s : Scheduler) : Overview :=
  ⟨s.replica.state, s.replica.acknowledged, s.replica.driver.isSome, s.stopped⟩

def holds (grant : Option Grant) (advertised left : Bool) (s : Scheduler) : Bool :=
  match grant.bind fun grant => s.controls.lookup grant with
  | some control => control.advertised = advertised && control.left = left
  | none => false

def lead (endpoint : String) : Act Reply := do
  let outcome ← within (Scheduler.lead endpoint)
  if let .ok grant := outcome then
    modify fun s => { s with grant := some grant }
  return ofOutcome outcome

def frameworkId : Act Reply := do
  match ← within Scheduler.readFrameworkId with
  | .error e => return .unreadable e
  | .ok id =>
    let last := (← get).identity
    modify fun s => { s with identity := some id }
    return .identity id (last = some id)

/-- Stops the scheduler and assembles a new one. Handles that were given out are still known. -/
def restart : Act Reply := do
  within do
    Scheduler.stop
    Scheduler.settle
  let s ← get
  match Scheduler.assemble s.config s.scheduler.storage.reopened s.scheduler.fleet.stamp with
  | .error e => return .refused e
  | .ok scheduler =>
    set { s with scheduler := { scheduler with controls := s.scheduler.controls } }
    return .ok

def answer : Request → Act Reply
  | .lead endpoint => lead endpoint
  | .await state => .reached <$> within (Scheduler.waitFor fun s => s.replica.state = state)
  | .awaitControl advertised left => do
    let grant := (← get).grant
    .reached <$> within (Scheduler.waitFor (holds grant advertised left))
  | .overview => do return .overview (overview (← get).scheduler)
  | .frameworkId => frameworkId
  | .http method uri => do
    let o := overview (← get).scheduler
    return .response (Api.respond ⟨o.state, o.registered⟩ method uri)
  | .post event => do
    within (Scheduler.post event)
    return .ok
  | .stopDriver => .status <$> within Scheduler.stopReferredDriver
  | .move target => ofOutcome <$> within (Scheduler.run (Lifecycle.request target))
  | .stop => do
    within Scheduler.stop
    return .ok
  | .awaitStop => .reached <$> within (Scheduler.waitFor Scheduler.stopped)
  | .restart => restart

def step (request : Request) : Act Reply := do
  let reply ← answer request
  within Scheduler.settle
  return reply

/-- Takes all requests: the replies, and the session after them. -/
def run (requests : List Request) (s : Session) : Except Blocked (List Reply × Session) :=
  match (requests.mapM step).run s with
  | .ok replies s => .ok (replies, s)
  | .error e _ => .error e

end Session
end Tenure.Standalone
