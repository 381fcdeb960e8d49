import Tenure.Json
import Tenure.Store
import Tenure.Text.Hex

/-!
# Stores as bytes

The image of a store is a document with the entries of both tables, each of them a key and the
bytes under it in hexadecimal.
-/
namespace Tenure.Store.Image

def ofTable (t : Table) : Json :=
  .array (t.entries.map fun entry => .array [.text entry.1, .text (.ofList (Text.hex entry.2))])

def encode (s : Store) : Bytes :=
  (Json.object [("scheduler", ofTable s.scheduler), ("tasks", ofTable s.tasks)]).encode

def entry? : Json → Option (String × Bytes)
  | .array [.text key, .text value] => (Text.ofHex? value.toList).map fun bytes => (key, bytes)
  | _ => none

def table? : Json → Option Table
  | .array items => (items.mapM entry?).map Table.ofEntries
  | _ => none

def decode? (bytes : Bytes) : Option Store := do
  let document ← Json.ofBytes? bytes
  return ⟨← (document.get? "scheduler").bind table?, ← (document.get? "tasks").bind table?⟩

end Tenure.Store.Image
