import Tenure.Storage.Durable

/-!
# Batches of work

A batch is a list of tasks for a storage, done in order up to the first that fails. What was
written before a failure stays written.
-/
namespace Tenure.Storage

inductive Task where
  | backfill
  | save (id : String)
  | fetch
  | fail (e : StorageError)

inductive Task.Output where
  | repaired (count : Nat)
  | saved
  | identity (id : Option String)

/-- The outputs of the tasks that were done, and how the batch ended. -/
abbrev Batch := List Task.Output × Except StorageError Unit

/-- The work of a batch, after tasks with these outputs, the latest first. -/
def Batch.workAfter (outputs : List Task.Output) : List Task → Work Batch
  | [] => .done (.ok (outputs.reverse, .ok ()))
  | .fail e :: _ => .done (.ok (outputs.reverse, .error e))
  | .backfill :: rest =>
    .backfill fun
      | .ok count => workAfter (.repaired count :: outputs) rest
      | .error e => .done (.ok (outputs.reverse, .error e))
  | .save id :: rest =>
    .save id fun
      | .ok () => workAfter (.saved :: outputs) rest
      | .error e => .done (.ok (outputs.reverse, .error e))
  | .fetch :: rest =>
    .fetch fun
      | .ok id => workAfter (.identity id :: outputs) rest
      | .error e => .done (.ok (outputs.reverse, .error e))

/-- A batch that was not admitted has no outputs. -/
def Batch.ofResult : Except StorageError Batch → Batch
  | .ok batch => batch
  | .error e => ([], .error e)

def runBatch {σ : Type} (storage : Storage σ) (tasks : List Task) : StateM σ Batch := do
  return .ofResult (← storage.start (Batch.workAfter [] tasks))

/-- Stops the storage while a batch is under way, before its first task. -/
def runBatchStopping {σ : Type} (storage : Storage σ) (tasks : List Task) : StateM σ Batch := do
  match ← storage.permit with
  | .error e => return ([], .error e)
  | .ok () =>
    match ← storage.stop with
    | .error e => return ([], .error e)
    | .ok () => return .ofResult (← storage.run (Batch.workAfter [] tasks))

end Tenure.Storage
