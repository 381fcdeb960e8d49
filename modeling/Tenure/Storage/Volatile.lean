import Tenure.Storage

/-!
# A storage without a store

Keeps the identity of the framework in memory and has no records to repair. It can be made to
fail at one of its calls, and counts them.
-/
namespace Tenure

/-- The calls that can be made to fail. -/
structure Volatile.Failures where
  prepare : Bool := false
  start : Bool := false
  stop : Bool := false

structure Volatile where
  failures : Volatile.Failures := {}
  prepared : Bool := false
  stopped : Bool := false
  frameworkId : Option String := none
  prepares : Nat := 0
  starts : Nat := 0
  stops : Nat := 0
  backfills : Nat := 0

namespace Volatile

def usable (v : Volatile) : Except StorageError Unit :=
  if v.stopped then .error .stopped
  else if !v.prepared then .error .notPrepared
  else .ok ()

def storage : Storage Volatile where
  prepare := do
    modify fun v => { v with prepares := v.prepares + 1 }
    if (← get).failures.prepare then return .error (.backend "injected prepare failure")
    modify fun v => { v with prepared := true }
    return .ok ()
  permit := do
    modify fun v => { v with starts := v.starts + 1 }
    if (← get).failures.start then return .error (.backend "injected start failure")
    return (← get).usable
  permitRead := return (← get).usable
  fetch := return .ok (← get).frameworkId
  save id := do
    modify fun v => { v with frameworkId := some id }
    return .ok ()
  backfill := do
    modify fun v => { v with backfills := v.backfills + 1 }
    return .ok 0
  stop := do
    modify fun v => { v with stops := v.stops + 1, stopped := true }
    if (← get).failures.stop then return .error (.backend "injected stop failure")
    return .ok ()

theorem read_run {α : Type} (work : Work α) (v : Volatile) :
    (storage.read work).run v =
      match v.usable with
      | .ok () => (storage.run work).run v
      | .error e => (.error e, v) := by
  have permit : storage.permitRead.run v = (v.usable, v) := rfl
  rw [Storage.read_run, permit]
  cases v.usable <;> rfl

/-! ## Calls that nothing makes fail -/

section Sturdy

variable {v : Volatile}

theorem prepare_run (sturdy : v.failures = {}) :
    storage.prepare.run v = (.ok (), { v with prepares := v.prepares + 1, prepared := true }) := by
  cases v
  cases sturdy
  rfl

theorem start_run {α : Type} (sturdy : v.failures = {}) (work : Work α) :
    (storage.start work).run v =
      match v.usable with
      | .ok () => (storage.run work).run { v with starts := v.starts + 1 }
      | .error e => (.error e, { v with starts := v.starts + 1 }) := by
  have permit : storage.permit.run v = (v.usable, { v with starts := v.starts + 1 }) := by
    cases v
    cases sturdy
    rfl
  rw [Storage.start_run, permit]
  cases v.usable <;> rfl

theorem stop_run (sturdy : v.failures = {}) :
    storage.stop.run v = (.ok (), { v with stops := v.stops + 1, stopped := true }) := by
  cases v
  cases sturdy
  rfl

end Sturdy

end Volatile
end Tenure
