import Tenure.Json
import Tenure.Json.Fault
import Tenure.State

/-!
# States in documents

A state is written by its label.
-/
namespace Tenure.State

def named : List (String × State) := all.map fun s => (s.label, s)

def toJson (s : State) : Json := .text s.label

def ofJson (j : Json) : Except Json.Fault State := j.sorted.toTree.asVariant .value named

end Tenure.State
