import Tenure.Error
import Tenure.Record.Codec
import Tenure.Store.Table

/-!
# The scheduler's store

Two tables: one holds the identity under which the framework is registered, the other a record
for each task, under its id. Values are kept as the bytes that were written, so they may turn
out not to be readable; each operation is a transaction and changes nothing when it fails.
-/
namespace Tenure

open Json (Fault Scan)

inductive StoreError where
  | unopened (reason : String)
  | transaction (reason : String)
  | table (reason : String)
  | storage (reason : String)
  | encode (reason : String)
  /-- The value under `key` cannot be read. -/
  | corrupt (key : String) (reason : Reason)
  deriving DecidableEq

namespace StoreError

/-- The wording of an error, of which `say` words the reason. -/
def word (say : Reason → String) : StoreError → String
  | unopened reason => "failed to open scheduler store: " ++ reason
  | transaction reason => "transaction error: " ++ reason
  | table reason => "table error: " ++ reason
  | storage reason => "storage error: " ++ reason
  | encode reason => "failed to encode record: " ++ reason
  | corrupt key reason => "corrupt record " ++ key ++ ": " ++ say reason

def message (e : StoreError) : String := e.word Reason.brief

def exactMessage (e : StoreError) : String := e.word Reason.exact

def chain (e : StoreError) : List String := [e.message]

end StoreError

structure Store where
  scheduler : Table
  tasks : Table

namespace Store

def empty : Store := ⟨.empty, .empty⟩

/-- The key of the identity in its table. -/
def identityKey : String := "framework_id"

/-- Why a value cannot be read, where a scan finds the place of the fault. -/
def reason (scan : Scan Unit) (bytes : Bytes) (fault : Fault) : Reason :=
  ⟨fault.reason, (scan.explain bytes).getD fault.reason⟩

/-- Names the key of a value that cannot be read. -/
def orCorrupt {α : Type} (key : String) (scan : Scan Unit) (bytes : Bytes) :
    Except Fault α → Except StoreError α
  | .ok a => .ok a
  | .error fault => .error (.corrupt key (reason scan bytes fault))

def readRecord (key : String) (bytes : Bytes) : Except StoreError Record :=
  orCorrupt key Record.scan bytes (Record.decode bytes)

/-! ## The identity of the framework -/

def frameworkId (s : Store) : Except StoreError (Option String) :=
  match s.scheduler.get? identityKey with
  | some bytes => (orCorrupt identityKey Scan.asText bytes (decodeText bytes)).map some
  | none => .ok none

def setFrameworkId (s : Store) (id : String) : Store :=
  { s with scheduler := s.scheduler.insert identityKey (encodeText id) }

/-! ## Task records -/

def put (s : Store) (r : Record) : Store :=
  { s with tasks := s.tasks.insert r.taskId r.encode }

def get (s : Store) (taskId : String) : Except StoreError (Option Record) :=
  match s.tasks.get? taskId with
  | some bytes => (readRecord taskId bytes).map some
  | none => .ok none

/-- The records under their keys; fails at the first that cannot be read. -/
def decodeAll : List (String × Bytes) → Except StoreError (List Record)
  | [] => .ok []
  | (key, bytes) :: rest => do
    let record ← readRecord key bytes
    return record :: (← decodeAll rest)

def list (s : Store) : Except StoreError (List Record) := decodeAll s.tasks.entries

/-- Removes a record and tells whether there was one. -/
def delete (s : Store) (taskId : String) : Bool × Store :=
  (s.tasks.contains taskId, { s with tasks := s.tasks.erase taskId })

/-! ## Repairing old records -/

/-- What a repair has to write: each incomplete record after its repair, under the key that it has.
Fails at the first value that cannot be read. -/
def repairs : List (String × Bytes) → Except StoreError (List (String × Bytes))
  | [] => .ok []
  | (key, bytes) :: rest => do
    let record ← readRecord key bytes
    let others ← repairs rest
    return if record.isComplete then others else (key, record.backfill.encode) :: others

/-- Repairs every incomplete record, and counts them. All records are read before any is written, so
one that cannot be read stops the repair before it has done anything. -/
def backfill (s : Store) : Except StoreError (Nat × Store) := do
  let written ← repairs s.tasks.entries
  return (written.length, { s with tasks := s.tasks.insertAll written })

end Store
end Tenure
