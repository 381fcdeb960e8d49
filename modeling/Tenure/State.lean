/-!
# States of a replica

A scheduler replica lives through seven states. It prepares its storage, waits to be
elected, leads, and ends in `dead`, which no state leaves.

`State.label` is the spelling used wherever a state is read or written; `ofLabel?` reads
it back.
-/
namespace Tenure

inductive State where
  | idle
  | preparingStorage
  | storagePrepared
  | leaderAwaitingRegistration
  | registeredLeader
  | active
  | dead
  deriving DecidableEq

namespace State

/-- The states in the order in which a replica passes through them. -/
def all : List State :=
  [idle, preparingStorage, storagePrepared, leaderAwaitingRegistration, registeredLeader,
    active, dead]

def label : State → String
  | idle => "IDLE"
  | preparingStorage => "PREPARING_STORAGE"
  | storagePrepared => "STORAGE_PREPARED"
  | leaderAwaitingRegistration => "LEADER_AWAITING_REGISTRATION"
  | registeredLeader => "REGISTERED_LEADER"
  | active => "ACTIVE"
  | dead => "DEAD"

/-- The name used when a state is shown for debugging. -/
def debugName : State → String
  | idle => "Idle"
  | preparingStorage => "PreparingStorage"
  | storagePrepared => "StoragePrepared"
  | leaderAwaitingRegistration => "LeaderAwaitingRegistration"
  | registeredLeader => "RegisteredLeader"
  | active => "Active"
  | dead => "Dead"

def isDead : State → Bool
  | dead => true
  | _ => false

def ofLabel? (s : String) : Option State := all.find? fun state => state.label == s

theorem mem_all (s : State) : s ∈ all := by cases s <;> decide

theorem ofLabel?_label (s : State) : ofLabel? s.label = some s := by cases s <;> decide

@[simp] theorem isDead_iff {s : State} : s.isDead = true ↔ s = dead := by cases s <;> decide

end State
end Tenure
