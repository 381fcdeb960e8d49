import Tenure.Storage
import Tenure.Store.File

/-!
# The storage of a scheduler

Keeps a store, in memory or in a file. Preparing opens it, stopping closes it for good. Work
that was admitted keeps the store it was given, so it can finish after a stop.
-/
namespace Tenure

/-- Whether the store can be worked on. -/
inductive Durable.Slot where
  | closed
  | opened
  | stopped
  deriving DecidableEq

inductive Durable.Place where
  | memory
  | disk
  /-- A path below something that is no directory. -/
  | unreachable
  deriving DecidableEq

structure Durable where
  place : Durable.Place
  slot : Durable.Slot := .closed
  /-- What is on disk, or would be, if the place is a file. -/
  file : Store.File := .absent
  /-- The store that was opened last. -/
  contents : Store := .empty

namespace Durable

/-- A storage in memory, which is empty at first. -/
def inMemory : Durable := { place := .memory }

def onDisk (file : Store.File) : Durable := { place := .disk, file }

def ofStore {α : Type} : Except StoreError α → Except StorageError α
  | .ok a => .ok a
  | .error e => .error (.backend ⟨e.message, e.exactMessage⟩)

def opening (d : Durable) : Except StorageError Store :=
  match d.place with
  | .memory => .ok .empty
  | .disk => ofStore d.file.openStore
  | .unreachable => .error (.backend "not a directory")

def usable (d : Durable) : Except StorageError Unit :=
  match d.slot with
  | .opened => .ok ()
  | .closed => .error .notPrepared
  | .stopped => .error .stopped

/-- Only what is open can be worked on. -/
theorem slot_of_usable {d : Durable} (h : d.usable = .ok ()) : d.slot = .opened := by
  rw [usable] at h
  split at h <;> first | assumption | cases h

/-- Changes the store, and the file with it. -/
def write (contents : Store) (d : Durable) : Durable :=
  { d with contents, file := .store contents }

def storage : Storage Durable where
  prepare := do
    let d ← get
    match d.slot with
    | .opened => return .ok ()
    | .stopped => return .error .stopped
    | .closed =>
      match d.opening with
      | .error e => return .error e
      | .ok contents =>
        set (write contents { d with slot := .opened })
        return .ok ()
  permit := return (← get).usable
  permitRead := return (← get).usable
  fetch := return ofStore (← get).contents.frameworkId
  save id := do
    modify fun d => d.write (d.contents.setFrameworkId id)
    return .ok ()
  backfill := do
    let d ← get
    match d.contents.backfill with
    | .error e => return ofStore (.error e)
    | .ok (count, contents) =>
      set (d.write contents)
      return .ok count
  stop := do
    modify fun d => { d with slot := .stopped }
    return .ok ()

theorem prepare_run (d : Durable) :
    storage.prepare.run d =
      match d.slot, d.opening with
      | .opened, _ => (.ok (), d)
      | .stopped, _ => (.error .stopped, d)
      | .closed, .error e => (.error e, d)
      | .closed, .ok contents => (.ok (), write contents { d with slot := .opened }) := by
  cases slot : d.slot <;> cases opening : d.opening <;> simp [storage, slot, opening] <;> rfl

theorem start_run {α : Type} (work : Work α) (d : Durable) :
    (storage.start work).run d =
      match d.usable with
      | .ok () => (storage.run work).run d
      | .error e => (.error e, d) := by
  have permit : storage.permit.run d = (d.usable, d) := rfl
  rw [Storage.start_run, permit]
  cases d.usable <;> rfl

theorem read_run {α : Type} (work : Work α) (d : Durable) :
    (storage.read work).run d =
      match d.usable with
      | .ok () => (storage.run work).run d
      | .error e => (.error e, d) := by
  have permit : storage.permitRead.run d = (d.usable, d) := rfl
  rw [Storage.read_run, permit]
  cases d.usable <;> rfl

theorem backfill_run (d : Durable) :
    storage.backfill.run d =
      match d.contents.backfill with
      | .error e => (ofStore (.error e), d)
      | .ok (count, contents) => (.ok count, d.write contents) := by
  cases backfill : d.contents.backfill <;> simp [storage, backfill] <;> rfl

/-- A work that only repairs the store. -/
theorem run_backfill {α : Type} (next : Except StorageError Nat → Except StorageError α)
    (d : Durable) :
    (storage.run (.backfill fun result => .done (next result))).run d =
      (next (storage.backfill.run d).1, (storage.backfill.run d).2) :=
  rfl

/-- Saves an identity from outside any work. -/
def saveFrameworkId (id : String) : StateM Durable (Except StorageError Unit) :=
  storage.start (.save id .done)

theorem saveFrameworkId_run (id : String) (d : Durable) :
    (saveFrameworkId id).run d =
      match d.usable with
      | .ok () => (storage.save id).run d
      | .error e => (.error e, d) := by
  rw [saveFrameworkId, start_run]
  rfl

/-- A new storage at the same place. What was only in memory is gone. -/
def reopened (d : Durable) : Durable := { place := d.place, file := d.file }

end Durable
end Tenure
