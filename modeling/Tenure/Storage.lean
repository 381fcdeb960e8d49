import Tenure.Error

/-!
# Storage as a replica sees it

A storage is prepared, works and is stopped. Work is a finite program over the store: it
fetches and saves the identity of the framework and repairs records, and goes on with what
each step gives it.

`Storage` lists what a storage does to its own state `σ`; `start` and `read` run a work when
the storage admits it. `readOnce` is how a value is read from a storage that runs its work as
often as it likes: only the first run counts.
-/
namespace Tenure

structure Storage (σ : Type) where
  prepare : StateM σ (Except StorageError Unit)
  /-- Whether changing work may run now. -/
  permit : StateM σ (Except StorageError Unit)
  /-- Whether reading work may run now. -/
  permitRead : StateM σ (Except StorageError Unit)
  fetch : StateM σ (Except StorageError (Option String))
  save : String → StateM σ (Except StorageError Unit)
  backfill : StateM σ (Except StorageError Nat)
  stop : StateM σ (Except StorageError Unit)

/-- Work that ends with a result. -/
inductive Work (α : Type) where
  | done (result : Except StorageError α)
  | fetch (next : Except StorageError (Option String) → Work α)
  | save (id : String) (next : Except StorageError Unit → Work α)
  | backfill (next : Except StorageError Nat → Work α)

namespace Storage

variable {σ α : Type}

def run (storage : Storage σ) : Work α → StateM σ (Except StorageError α)
  | .done result => pure result
  | .fetch next => do run storage (next (← storage.fetch))
  | .save id next => do run storage (next (← storage.save id))
  | .backfill next => do run storage (next (← storage.backfill))

def start (storage : Storage σ) (work : Work α) : StateM σ (Except StorageError α) := do
  match ← storage.permit with
  | .ok () => storage.run work
  | .error e => return .error e

def read (storage : Storage σ) (work : Work α) : StateM σ (Except StorageError α) := do
  match ← storage.permitRead with
  | .ok () => storage.run work
  | .error e => return .error e

theorem start_run (storage : Storage σ) (work : Work α) (s : σ) :
    (storage.start work).run s =
      match storage.permit.run s with
      | (.ok (), s') => (storage.run work).run s'
      | (.error e, s') => (.error e, s') := by
  show (match (storage.permit.run s).1 with
    | .ok () => storage.run work
    | .error e => pure (.error e) : StateM σ (Except StorageError α)).run
      (storage.permit.run s).2 = _
  rcases storage.permit.run s with ⟨_ | _, s'⟩ <;> rfl

theorem read_run (storage : Storage σ) (work : Work α) (s : σ) :
    (storage.read work).run s =
      match storage.permitRead.run s with
      | (.ok (), s') => (storage.run work).run s'
      | (.error e, s') => (.error e, s') := by
  show (match (storage.permitRead.run s).1 with
    | .ok () => storage.run work
    | .error e => pure (.error e) : StateM σ (Except StorageError α)).run
      (storage.permitRead.run s).2 = _
  rcases storage.permitRead.run s with ⟨_ | _, s'⟩ <;> rfl

/-! ## Reading a value once -/

/-- What a storage does with reading work: it acts for itself, hands the work a view of what it
keeps, as often as it likes, looks at the outcome of each run, and comes to a result. -/
inductive Plan (m : Type → Type) (ν ρ : Type) : Type 1 where
  | report (result : ρ)
  | act {β : Type} (effect : m β) (next : β → Plan m ν ρ)
  | run (view : ν) (next : Except StorageError Unit → Plan m ν ρ)

/-- What reading work has come to so far. -/
inductive Reading (α : Type) where
  | awaited
  /-- The read has been executed, and gave a value or none. -/
  | executed (value : Option α)

def unexecuted : StorageError := .backend "read work was not executed"

section Once

variable {m : Type → Type} {ν ρ : Type}

namespace Plan

def bind {ρ' : Type} : Plan m ν ρ → (ρ → Plan m ν ρ') → Plan m ν ρ'
  | .report result, f => f result
  | .act effect next, f => .act effect fun b => (next b).bind f
  | .run view next, f => .run view fun outcome => (next outcome).bind f

instance : Monad (Plan m ν) where
  pure := .report
  bind := bind

instance : MonadLift m (Plan m ν) where
  monadLift effect := .act effect .report

/-- Runs the work `n` times, unless a run fails, and reports how the last one went. -/
def repeated (view : ν) : Nat → Plan m ν (Except StorageError Unit)
  | 0 => .report (.ok ())
  | n + 1 => .run view fun
    | .ok () => repeated view n
    | .error e => .report (.error e)

end Plan

variable [Monad m]

/-- One run of reading work. Only the first run reads; later ones report success at once. -/
def Reading.runOnce (read : m (Except StorageError α)) :
    Reading α → m (Except StorageError Unit × Reading α)
  | .awaited => do
    match ← read with
    | .ok a => return (.ok (), .executed (some a))
    | .error e => return (.error e, .executed none)
  | .executed value => return (.ok (), .executed value)

/-- The result of a read: the storage's own error, else the value, else that there is none. -/
def Reading.conclude : Reading α → Except StorageError Unit → Except StorageError α
  | _, .error e => .error e
  | .executed (some a), .ok () => .ok a
  | _, .ok () => .error unexecuted

theorem Reading.conclude_eq_ok_iff {reading : Reading α} {result : Except StorageError Unit}
    {a : α} : reading.conclude result = .ok a ↔ result = .ok () ∧ reading = .executed (some a) := by
  cases result <;> rcases reading with _ | _ | _ <;> simp [conclude]

theorem Reading.conclude_of_valueless {reading : Reading α}
    (valueless : ∀ a, reading ≠ .executed (some a)) :
    reading.conclude (.ok ()) = .error unexecuted := by
  rcases reading with _ | _ | a
  · rfl
  · rfl
  · exact absurd rfl (valueless a)

/-- Follows a plan: what the storage comes to in the end, and what the reading has come to. -/
def Reading.follow (read : ν → m (Except StorageError α)) (reading : Reading α) :
    Plan m ν ρ → m (ρ × Reading α)
  | .report result => return (result, reading)
  | .act effect next => do reading.follow read (next (← effect))
  | .run view next => do
    let (outcome, reading) ← reading.runOnce (read view)
    reading.follow read (next outcome)

/-- Reads a value from a storage that follows `plan`. -/
def readOnce (plan : Plan m ν (Except StorageError Unit)) (read : ν → m (Except StorageError α)) :
    m (Except StorageError α) := do
  let (result, reading) ← Reading.awaited.follow read plan
  return reading.conclude result

end Once

/-- A storage that admits reading work runs it once, and reports how it went. -/
def readingPlan (storage : Storage σ) : Plan (StateM σ) Unit (Except StorageError Unit) :=
  .act storage.permitRead fun
    | .ok () => .repeated () 1
    | .error e => .report (.error e)

/-- What is read once from such a storage is what its work comes to. -/
theorem readOnce_readingPlan (storage : Storage σ) (work : Work α) :
    readOnce storage.readingPlan (fun _ => storage.run work) = storage.read work := by
  simp only [readOnce, readingPlan, Reading.follow, read, bind_assoc]
  refine bind_congr fun admitted => ?_
  cases admitted with
  | error e => simp [Reading.follow, Reading.conclude]
  | ok =>
    refine Eq.trans ?_ (bind_pure (storage.run work))
    simp only [Plan.repeated, Reading.follow, Reading.runOnce, bind_assoc]
    refine bind_congr fun result => ?_
    cases result <;> simp [Reading.follow, Reading.conclude]

end Storage
end Tenure
