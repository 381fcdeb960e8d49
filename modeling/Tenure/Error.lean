import Tenure.State.Graph

/-!
# Causes of failure

Each part of a replica fails for causes of its own. `message` is the wording of a cause,
and `chain` lists the wordings of a cause and of whatever brought it about, outermost
first. What a storage reports can be worded exactly, too.
-/
namespace Tenure

/-- Why something failed: in brief, and exactly, which tells the place of a fault in a document. -/
structure Reason where
  brief : String
  exact : String
  deriving DecidableEq

instance : Coe String Reason := ⟨fun s => ⟨s, s⟩⟩

inductive StorageError where
  | notPrepared
  | stopped
  | backend (reason : Reason)
  deriving DecidableEq

inductive LeadershipError where
  | join (reason : String)
  | interrupted
  | serverSetUpdate (reason : String)
  deriving DecidableEq

inductive LifecycleError where
  | illegalMove (move : IllegalMove)
  | storageInitialization (cause : StorageError)
  /-- The replica died while the operation was under way. -/
  | terminated
  | invalidOptions (reason : String)
  deriving DecidableEq

def IllegalMove.message (m : IllegalMove) : String :=
  "invalid lifecycle transition from " ++ m.source.label ++ " to " ++ m.target.label

namespace StorageError

/-- The wording of an error, of which `say` words the reason. -/
def word (say : Reason → String) : StorageError → String
  | notPrepared => "storage has not been prepared"
  | stopped => "storage has been stopped"
  | backend reason => "storage backend error: " ++ say reason

def message (e : StorageError) : String := e.word Reason.brief

def exactMessage (e : StorageError) : String := e.word Reason.exact

def chain (e : StorageError) : List String := [e.message]

end StorageError

namespace LeadershipError

def message : LeadershipError → String
  | join reason => "failed to join leader group: " ++ reason
  | interrupted => "interrupted while updating leadership"
  | serverSetUpdate reason => "failed to update server set: " ++ reason

def chain (e : LeadershipError) : List String := [e.message]

end LeadershipError

namespace LifecycleError

def message : LifecycleError → String
  | illegalMove move => move.message
  | storageInitialization cause => "storage initialization failed: " ++ cause.message
  | terminated => "lifecycle shut down while the operation was in progress"
  | invalidOptions reason => "invalid leading options: " ++ reason

def chain : LifecycleError → List String
  | e@(storageInitialization cause) => e.message :: cause.chain
  | e => [e.message]

end LifecycleError
end Tenure
