import Tenure.Json
import Tenure.Json.Diagnosis
import Tenure.Record

/-!
# Records as documents

Writing leaves out what a record lacks and keeps the order of the fields. Reading takes the
fields in any order, skips those it does not know, and takes an absent or null environment or
job key for none; an array of the fields in order will do as well.
-/
namespace Tenure

open Json (Tree Fault Origin Scan Stop)

namespace JobKey

def toJson (k : JobKey) : Json :=
  .object [("role", .text k.role), ("environment", .text k.environment), ("name", .text k.name)]

/-- The fields met so far. -/
structure Draft where
  role : Option String := none
  environment : Option String := none
  name : Option String := none

namespace Draft

def put (d : Draft) (key : String) (value : Tree) : Except Fault Draft :=
  match key with
  | "role" =>
    if d.role.isSome then .error (.duplicateField key)
    else value.asText.map fun s => { d with role := some s }
  | "environment" =>
    if d.environment.isSome then .error (.duplicateField key)
    else value.asText.map fun s => { d with environment := some s }
  | "name" =>
    if d.name.isSome then .error (.duplicateField key)
    else value.asText.map fun s => { d with name := some s }
  | _ => value.skip.map fun _ => d

def complete (d : Draft) : Except Fault JobKey :=
  match d.role, d.environment, d.name with
  | some role, some environment, some name => .ok ⟨role, environment, name⟩
  | none, _, _ => .error (.missingField "role")
  | _, none, _ => .error (.missingField "environment")
  | _, _, none => .error (.missingField "name")

end Draft

def item (items : List Tree) (i : Nat) : Except Fault String :=
  match items[i]? with
  | some t => t.asText
  | none => .error (.wrongLength i "struct JobKey with 3 elements")

/-- Finds the first fault of a key in a document. -/
def scan : Scan Unit :=
  .asRecord "struct JobKey"
    [⟨"role", .asText, true⟩, ⟨"environment", .asText, true⟩, ⟨"name", .asText, true⟩]

def ofTree (origin : Origin) : Tree → Except Fault JobKey
  | .object members stop => do (← Tree.fromMembers Draft.put {} members stop).complete
  | .array items closed => do
    let role ← item items 0
    let environment ← item items 1
    let name ← item items 2
    Tree.endOfFields origin items closed 3
    return ⟨role, environment, name⟩
  | t => t.mismatch "struct JobKey"

end JobKey

namespace TaskStatus

def named : List (String × TaskStatus) := all.map fun s => (s.label, s)

end TaskStatus

namespace Record

/-- A member for a field that may be absent. -/
def present {α : Type} (key : String) (f : α → Json) : Option α → List (String × Json)
  | some a => [(key, f a)]
  | none => []

def toJson (r : Record) : Json :=
  .object ([("task_id", .text r.taskId), ("role", .text r.role), ("job_name", .text r.jobName)] ++
    present "environment" .text r.environment ++ present "job_key" JobKey.toJson r.jobKey ++
    [("status", .text r.status.label), ("updated_at", .nat r.updatedAt.toNat)])

def encode (r : Record) : List UInt8 := r.toJson.encode

/-- The fields met so far. A field that may be null counts as met once its value was read. -/
structure Draft where
  taskId : Option String := none
  role : Option String := none
  jobName : Option String := none
  environment : Option (Option String) := none
  jobKey : Option (Option JobKey) := none
  status : Option TaskStatus := none
  updatedAt : Option UInt64 := none

namespace Draft

def put (origin : Origin) (d : Draft) (key : String) (value : Tree) : Except Fault Draft :=
  match key with
  | "task_id" =>
    if d.taskId.isSome then .error (.duplicateField key)
    else value.asText.map fun s => { d with taskId := some s }
  | "role" =>
    if d.role.isSome then .error (.duplicateField key)
    else value.asText.map fun s => { d with role := some s }
  | "job_name" =>
    if d.jobName.isSome then .error (.duplicateField key)
    else value.asText.map fun s => { d with jobName := some s }
  | "environment" =>
    if d.environment.isSome then .error (.duplicateField key)
    else (value.asOptional Tree.asText).map fun s => { d with environment := some s }
  | "job_key" =>
    if d.jobKey.isSome then .error (.duplicateField key)
    else (value.asOptional (JobKey.ofTree origin)).map fun k => { d with jobKey := some k }
  | "status" =>
    if d.status.isSome then .error (.duplicateField key)
    else (value.asVariant origin TaskStatus.named).map fun s => { d with status := some s }
  | "updated_at" =>
    if d.updatedAt.isSome then .error (.duplicateField key)
    else value.asWord.map fun n => { d with updatedAt := some n }
  | _ => value.skip.map fun _ => d

def field {α : Type} (name : String) : Option α → Except Fault α
  | some a => .ok a
  | none => .error (.missingField name)

def complete (d : Draft) : Except Fault Record := do
  let taskId ← field "task_id" d.taskId
  let role ← field "role" d.role
  let jobName ← field "job_name" d.jobName
  let status ← field "status" d.status
  let updatedAt ← field "updated_at" d.updatedAt
  return ⟨taskId, role, jobName, d.environment.join, d.jobKey.join, status, updatedAt⟩

end Draft

/-- The field at a place of the array form. -/
def item {α : Type} (items : List Tree) (i : Nat) (read : Tree → Except Fault α) :
    Except Fault α :=
  match items[i]? with
  | some t => read t
  | none => .error (.wrongLength i "struct TaskRecord with 7 elements")

/-- As `item`, for a field that the array need not reach. -/
def optionalItem {α : Type} (items : List Tree) (i : Nat) (read : Tree → Except Fault α) :
    Except Fault (Option α) :=
  match items[i]? with
  | some t => t.asOptional read
  | none => .ok none

def ofItems (origin : Origin) (items : List Tree) (closed : Bool) : Except Fault Record := do
  let taskId ← item items 0 Tree.asText
  let role ← item items 1 Tree.asText
  let jobName ← item items 2 Tree.asText
  let environment ← optionalItem items 3 Tree.asText
  let jobKey ← optionalItem items 4 (JobKey.ofTree origin)
  let status ← item items 5 (Tree.asVariant origin TaskStatus.named)
  let updatedAt ← item items 6 Tree.asWord
  Tree.endOfFields origin items closed 7
  return ⟨taskId, role, jobName, environment, jobKey, status, updatedAt⟩

def ofTree (origin : Origin) : Tree → Except Fault Record
  | .object members stop => do
    (← Tree.fromMembers (Draft.put origin) {} members stop).complete
  | .array items closed => ofItems origin items closed
  | t => t.mismatch "struct TaskRecord"

/-- Trailing text is noticed last. -/
def decode (bytes : List UInt8) : Except Fault Record := do
  let document := Tree.ofBytes bytes
  let record ← ofTree .text document.tree
  if document.trailing then throw .malformed
  return record

/-- Finds the first fault of a record in a document. -/
def scan : Scan Unit :=
  .asRecord "struct TaskRecord"
    [⟨"task_id", .asText, true⟩, ⟨"role", .asText, true⟩, ⟨"job_name", .asText, true⟩,
      ⟨"environment", .asOptional .asText, false⟩, ⟨"job_key", .asOptional JobKey.scan, false⟩,
      ⟨"status", .asVariant (TaskStatus.named.map Prod.fst), true⟩, ⟨"updated_at", .asWord, true⟩]

/-- The record that a value stands for. -/
def ofJson (j : Json) : Except Fault Record := ofTree .value j.sorted.toTree

end Record

/-- An identity as it is stored: a text of its own. -/
def decodeText (bytes : List UInt8) : Except Fault String := do
  let document := Tree.ofBytes bytes
  let s ← document.tree.asText
  if document.trailing then throw .malformed
  return s

def encodeText (s : String) : List UInt8 := (Json.text s).encode

end Tenure
