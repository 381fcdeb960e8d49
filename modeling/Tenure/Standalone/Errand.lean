import Tenure.Standalone.Scheduler

/-!
# Collaborators step by step

`Scheduler.answer` answers a call at once. Where several callers use a replica, a collaborator
comes to its answer in steps, and those of others may come in between: a storage that has admitted
a work may be stopped before the work is done, and a driver that runs has still to keep its
identity and to make it known. Each step of an errand looks at one part of the scheduler or changes
it.

An errand that nobody interrupts comes to what `Scheduler.answer` says.
-/
namespace Tenure.Standalone

open Lifecycle (Call DriverId Grant)

/-- How far a collaborator has come with a call. -/
inductive Errand where
  | begun (c : Call)
  /-- The storage has admitted the repair. -/
  | repairing
  /-- The storage has admitted the reading of the identity. -/
  | reading
  /-- The driver runs, under an identity that is to be kept. -/
  | registering (driver : DriverId) (id : String)
  /-- The storage has admitted the identity. -/
  | saving (driver : DriverId) (id : String)
  /-- Whatever came of keeping the identity, it is to be made known. -/
  | announcing (driver : DriverId) (id : String)
  | advertising (grant : Grant) (call : Control.Call)
  | leaving (grant : Grant) (call : Control.Call)
  | done (c : Call) (x : c.Answer)

namespace Scheduler

/-- Uses the storage for one step. -/
def work {α : Type} (s : Scheduler) (use : StateM Durable α) : α × Scheduler :=
  ((use.run s.storage).1, { s with storage := (use.run s.storage).2 })

def withControl (s : Scheduler) (grant : Grant) (control : Control) : Scheduler :=
  { s with controls := s.controls.map fun entry =>
      if entry.1 = grant then (grant, control) else entry }

/-- The next step of a call on the handle of a grant. -/
def handle (s : Scheduler) (grant : Grant) (call : Control.Call) : Control.Call × Scheduler :=
  match s.controls.lookup grant with
  | none => (.done (.ok ()), s)
  | some control => ((control.step call).1, s.withControl grant (control.step call).2)

/-- Work is done at once if the storage admits it. -/
theorem onStorage_start {α : Type} (work : Work α) (s : Scheduler) :
    (onStorage (Durable.storage.start work)).run s =
      match s.storage.usable with
      | .ok () => .ok (s.work (Durable.storage.run work)).1 (s.work (Durable.storage.run work)).2
      | .error e => .ok (.error e) s := by
  show EStateM.Result.ok
    ((match s.storage.usable with
      | .ok () => Durable.storage.run work
      | .error e => pure (.error e) : StateM Durable (Except StorageError α)).run s.storage).1
    { s with storage := ((match s.storage.usable with
      | .ok () => Durable.storage.run work
      | .error e => pure (.error e) : StateM Durable (Except StorageError α)).run s.storage).2 } = _
  cases s.storage.usable <;> rfl

/-- The handle that is found after a change is the one that was put there. -/
theorem lookup_withControl {s : Scheduler} {grant : Grant} {control : Control}
    (found : s.controls.lookup grant = some control) (control' : Control) :
    (s.withControl grant control').controls.lookup grant = some control' := by
  show (s.controls.map _).lookup grant = _
  generalize s.controls = controls at found
  induction controls with
  | nil => cases found
  | cons entry rest ih =>
    obtain ⟨grant', other⟩ := entry
    by_cases same : grant' = grant
    · simp [same]
    · have differs : (grant == grant') = false := by simpa using Ne.symm same
      rw [List.lookup_cons, differs] at found
      simpa [same, List.lookup_cons, differs] using ih found

theorem withControl_withControl (s : Scheduler) (grant : Grant) (control control' : Control) :
    (s.withControl grant control).withControl grant control' = s.withControl grant control' := by
  simp only [withControl, List.map_map]
  congr 2
  funext entry
  by_cases same : entry.1 = grant <;> simp [same]

/-- A call on a handle touches nothing but handles. -/
theorem handle_eq (s : Scheduler) (grant : Grant) (call : Control.Call) :
    ∃ controls, (s.handle grant call).2 = { s with controls } := by
  unfold handle
  split
  · exact ⟨s.controls, rfl⟩
  · exact ⟨_, rfl⟩

theorem onControl_of_found {s : Scheduler} {grant : Grant} {control : Control}
    (found : s.controls.lookup grant = some control) (call : Control.Call) :
    (onControl grant call).run s =
      .ok (control.use call).1 (s.withControl grant (control.use call).2) := by
  simp [onControl, found, withControl]

theorem onControl_of_unknown {s : Scheduler} {grant : Grant}
    (unknown : s.controls.lookup grant = none) (call : Control.Call) :
    (onControl grant call).run s = .ok (.ok ()) s := by
  simp [onControl, unknown]

end Scheduler

namespace Errand

/-- The call that is to be answered. -/
def call : Errand → Call
  | begun c => c
  | repairing => .repairStorage
  | reading => .readFrameworkId
  | registering driver _ | saving driver _ | announcing driver _ => .startDriver driver
  | advertising grant _ => .advertise grant
  | leaving grant _ => .leave grant
  | done c _ => c

/-- The next step of an errand. There is none while a driver that is joined runs, and none after
the answer. -/
def step? (s : Scheduler) : Errand → Option (Errand × Scheduler)
  | begun .repairStorage =>
    match s.storage.usable with
    | .ok () => some (repairing, s)
    | .error e => some (done .repairStorage (.error e), s)
  | begun .readFrameworkId =>
    match s.storage.usable with
    | .ok () => some (reading, s)
    | .error e => some (done .readFrameworkId (.error e), s)
  | begun (.startDriver driver) =>
    match s.fleet.start driver.index with
    | none => some (done (.startDriver driver) .notStarted, s)
    | some (status, none, fleet) => some (done (.startDriver driver) status, { s with fleet })
    | some (_, some id, fleet) => some (registering driver id, { s with fleet })
  | begun (.joinDriver driver) =>
    (s.fleet.join? driver.index).map fun status => (done (.joinDriver driver) status, s)
  | begun (.advertise grant) => some (advertising grant .advertise, s)
  | begun (.leave grant) => some (leaving grant .leave, s)
  | begun c =>
    match (Scheduler.answer c).run s with
    | .ok x s => some (done c x, s)
    | .error _ _ => none
  | repairing =>
    let repaired := s.work (Durable.storage.run
      (.backfill fun result => .done (result.map fun _ => ())))
    some (done .repairStorage repaired.1, repaired.2)
  | reading =>
    let read := s.work (Durable.storage.run (.fetch .done))
    some (done .readFrameworkId read.1, read.2)
  | registering driver id =>
    match s.storage.usable with
    | .ok () => some (saving driver id, s)
    | .error _ => some (announcing driver id, s)
  | saving driver id => some (announcing driver id, (s.work (Durable.storage.save id)).2)
  | announcing driver id =>
    some (done (.startDriver driver) .running,
      { s with bus := s.bus.post (.driverRegistered id) })
  | advertising grant (.done result) => some (done (.advertise grant) result, s)
  | advertising grant call =>
    some (advertising grant (s.handle grant call).1, (s.handle grant call).2)
  | leaving grant (.done result) => some (done (.leave grant) result, s)
  | leaving grant call => some (leaving grant (s.handle grant call).1, (s.handle grant call).2)
  | done _ _ => none

/-- An errand stays on the same call. -/
theorem call_of_step? {s s' : Scheduler} {e e' : Errand} :
    e.step? s = some (e', s') → e'.call = e.call := by
  fun_cases step? s e
  case case8 =>
    intro h
    obtain ⟨status, -, h⟩ := Option.map_eq_some_iff.mp h
    cases h
    rfl
  all_goals rintro ⟨⟩
  all_goals rfl

/-- Some steps without a break. -/
def proceed : Nat → Errand → Scheduler → Option (Errand × Scheduler)
  | 0, e, s => some (e, s)
  | n + 1, e, s => (e.step? s).bind fun next => proceed n next.1 next.2

/-! ## Without a break -/

variable {s : Scheduler}

/-- An errand that nobody interrupts comes to the answer of the call, once the driver that is to be
joined is over. -/
theorem proceed_begun (c : Call) (s : Scheduler)
    (joined : ∀ driver, c = .joinDriver driver → (s.fleet.join? driver.index).isSome = true) :
    ∃ n x s', (Scheduler.answer c).run s = .ok x s' ∧
      proceed n (begun c) s = some (done c x, s') := by
  cases c with
  | repairStorage =>
    have answer := Scheduler.onStorage_start
      (.backfill fun result => .done (result.map fun _ => ())) s
    cases usable : s.storage.usable with
    | error e =>
      rw [usable] at answer
      exact ⟨1, .error e, s, answer, by simp [proceed, step?, usable]⟩
    | ok =>
      rw [usable] at answer
      exact ⟨2, _, _, answer, by simp [proceed, step?, usable]⟩
  | readFrameworkId =>
    have answer := Scheduler.onStorage_start (.fetch .done) s
    cases usable : s.storage.usable with
    | error e =>
      rw [usable] at answer
      exact ⟨1, .error e, s, answer, by simp [proceed, step?, usable]⟩
    | ok =>
      rw [usable] at answer
      exact ⟨2, _, _, answer, by simp [proceed, step?, usable]⟩
  | startDriver driver =>
    cases started : s.fleet.start driver.index with
    | none =>
      exact ⟨1, _, _, Scheduler.startDriver_of_unknown started, by simp [proceed, step?, started]⟩
    | some result =>
      obtain ⟨status, registered, fleet⟩ := result
      cases registered with
      | none =>
        exact ⟨1, _, _, Scheduler.startDriver_of_unregistered started,
          by simp [proceed, step?, started]⟩
      | some id =>
        have answer := Scheduler.startDriver_of_registered started
        rw [Durable.saveFrameworkId_run] at answer
        obtain ⟨-, -, -, rfl, -⟩ := Fleet.start_of_some started
        cases usable : s.storage.usable with
        | error e =>
          rw [usable] at answer
          exact ⟨3, _, _, answer, by simp [proceed, step?, started, usable]⟩
        | ok =>
          rw [usable] at answer
          refine ⟨4, _, _, answer, ?_⟩
          simp only [proceed, step?, started, usable, Option.bind_some]
          rfl
  | joinDriver driver =>
    obtain ⟨status, ended⟩ := Option.isSome_iff_exists.mp (joined driver rfl)
    refine ⟨1, ((s.fleet.join? driver.index).getD .running), s, rfl, ?_⟩
    simp [proceed, step?, ended]
  | advertise grant =>
    cases found : s.controls.lookup grant with
    | none =>
      exact ⟨3, _, _, Scheduler.onControl_of_unknown found .advertise,
        by simp [proceed, step?, Scheduler.handle, found]⟩
    | some control =>
      refine ⟨if control.left then 3 else 4, _, _,
        Scheduler.onControl_of_found found .advertise, ?_⟩
      have found' := Scheduler.lookup_withControl found control
      cases left : control.left <;>
        simp [proceed, step?, Scheduler.handle, found, found', Control.step, Control.use, left,
          Scheduler.withControl_withControl, Control.Call.result]
  | leave grant =>
    cases found : s.controls.lookup grant with
    | none =>
      exact ⟨3, _, _, Scheduler.onControl_of_unknown found .leave,
        by simp [proceed, step?, Scheduler.handle, found]⟩
    | some control =>
      refine ⟨if control.left then 3 else 4, _, _, Scheduler.onControl_of_found found .leave, ?_⟩
      have found' := Scheduler.lookup_withControl found { control with left := true }
      cases left : control.left <;>
        simp [proceed, step?, Scheduler.handle, found, found', Control.step, Control.use, left,
          Scheduler.withControl_withControl, Control.Call.result]
  | arm timer => cases timer <;> exact ⟨1, _, _, rfl, rfl⟩
  | _ => exact ⟨1, _, _, rfl, rfl⟩

end Errand
end Tenure.Standalone
