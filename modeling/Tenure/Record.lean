/-!
# Task records

What the store keeps of a task. Records of an older scheduler lack the environment or the job
key; `Record.backfill` supplies what is missing and leaves the rest alone.
-/
namespace Tenure

/-- The job that a task belongs to. -/
structure JobKey where
  role : String
  environment : String
  name : String
  deriving DecidableEq

def JobKey.path (k : JobKey) : String := k.role ++ "/" ++ k.environment ++ "/" ++ k.name

inductive TaskStatus where
  | pending
  | assigned
  | running
  | finished
  | failed
  | killed
  | lost
  deriving DecidableEq

namespace TaskStatus

def all : List TaskStatus := [pending, assigned, running, finished, failed, killed, lost]

def label : TaskStatus → String
  | pending => "pending"
  | assigned => "assigned"
  | running => "running"
  | finished => "finished"
  | failed => "failed"
  | killed => "killed"
  | lost => "lost"

end TaskStatus

structure Record where
  taskId : String
  role : String
  jobName : String
  environment : Option String
  jobKey : Option JobKey
  status : TaskStatus
  updatedAt : UInt64
  deriving DecidableEq

namespace Record

/-- A complete record for a task of `job`. -/
def ofJob (taskId : String) (job : JobKey) (status : TaskStatus) (updatedAt : UInt64) : Record where
  taskId
  role := job.role
  jobName := job.name
  environment := some job.environment
  jobKey := some job
  status
  updatedAt

def isComplete (r : Record) : Bool := r.environment.isSome && r.jobKey.isSome

theorem isComplete_eq_false_iff {r : Record} :
    r.isComplete = false ↔ r.environment = none ∨ r.jobKey = none := by
  rw [isComplete, Bool.and_eq_false_iff, Option.isSome_eq_false_iff, Option.isSome_eq_false_iff,
    Option.isNone_iff_eq_none, Option.isNone_iff_eq_none]

/-- The environment of tasks that were stored without one. -/
def defaultEnvironment : String := "devel"

def backfill (r : Record) : Record :=
  let environment := r.environment.getD defaultEnvironment
  { r with
    environment := some environment
    jobKey := some (r.jobKey.getD ⟨r.role, environment, r.jobName⟩) }

theorem isComplete_backfill (r : Record) : r.backfill.isComplete = true := rfl

theorem backfill_of_isComplete {r : Record} (h : r.isComplete = true) : r.backfill = r := by
  rcases r with ⟨_, _, _, environment, jobKey, _, _⟩
  cases environment <;> cases jobKey <;> simp_all [isComplete, backfill]

end Record
end Tenure
