import Tenure.Store.Image

/-!
# Files that hold a store

A store can be opened where there is no file or an empty one, and where there is a store or its
image; any other file is left alone. A database whose tables hold other things is no store
either.
-/
namespace Tenure.Store

inductive File where
  | absent
  | plain (bytes : Bytes)
  /-- A database in which this table is not one of texts and bytes. -/
  | otherwise (table : String)
  | store (contents : Store)

namespace File

/-- The names of the two tables. -/
def tableNames : List String := ["scheduler", "tasks"]

def openStore : File → Except StoreError Store
  | absent => .ok .empty
  | plain [] => .ok .empty
  | plain bytes =>
    match Image.decode? bytes with
    | some contents => .ok contents
    | none => .error (.unopened "not a database")
  | otherwise table =>
    if table ∈ tableNames then .error (.table "table holds other types") else .ok .empty
  | store contents => .ok contents

end File
end Tenure.Store
