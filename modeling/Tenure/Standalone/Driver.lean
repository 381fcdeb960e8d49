import Tenure.Status

/-!
# Drivers without a resource manager

A local driver registers itself when it is started, under the identity that it resumes or under
a new one. It runs until it is stopped, and it is never started again.
-/
namespace Tenure.Standalone

/-- What tells a new identity from all others: the process that made it, and when. -/
structure Stamp where
  process : Nat
  millis : Nat

def Stamp.identity (stamp : Stamp) (name : String) : String :=
  name ++ "-" ++ toString stamp.process ++ "-" ++ toString stamp.millis

structure Driver where
  /-- The identity that is resumed, if there is one. -/
  frameworkId : Option String
  status : DriverStatus := .notStarted

namespace Driver

/-- Whether a join on the driver comes to an end. -/
def isOver (d : Driver) : Bool := d.status = .aborted || d.status = .stopped

/-- Starts a driver and gives the identity that it registers; one that was started or stopped
before stays as it is. -/
def start (d : Driver) (fresh : String) : Option String × Driver :=
  if d.status = .notStarted then (some (d.frameworkId.getD fresh), { d with status := .running })
  else (none, d)

def stop (d : Driver) : Driver := { d with status := .stopped }

end Driver

/-- The drivers of one scheduler, by the number in which they were made. -/
structure Fleet where
  name : String
  /-- For the next new identity. -/
  stamp : Stamp
  drivers : List Driver := []

namespace Fleet

def create (fleet : Fleet) (frameworkId : Option String) : Nat × Fleet :=
  (fleet.drivers.length, { fleet with drivers := fleet.drivers ++ [{ frameworkId }] })

/-- Starts a driver: its status after that, and the identity that it registers. -/
def start (fleet : Fleet) (driver : Nat) : Option (DriverStatus × Option String × Fleet) := do
  let (registered, d) := (← fleet.drivers[driver]?).start (fleet.stamp.identity fleet.name)
  return (d.status, registered,
    { fleet with
      drivers := fleet.drivers.set driver d
      stamp := { fleet.stamp with millis := fleet.stamp.millis + 1 } })

def stop (fleet : Fleet) (driver : Nat) : Fleet :=
  { fleet with drivers := fleet.drivers.modify driver Driver.stop }

/-- Who registers was not started before, and goes under the identity that it resumes, if any. -/
theorem start_of_some {fleet fleet' : Fleet} {driver : Nat} {status : DriverStatus} {id : String}
    (h : fleet.start driver = some (status, some id, fleet')) :
    ∃ resumed, fleet.drivers[driver]? = some ⟨resumed, .notStarted⟩ ∧
      id = resumed.getD (fleet.stamp.identity fleet.name) ∧ status = .running ∧
        fleet'.drivers = fleet.drivers.set driver ⟨resumed, .running⟩ := by
  simp only [start, Driver.start, Option.bind_eq_bind, Option.bind_eq_some_iff] at h
  obtain ⟨⟨resumed, before⟩, found, h⟩ := h
  split at h
  · next unstarted =>
    cases h
    obtain rfl : before = .notStarted := unstarted
    exact ⟨resumed, found, rfl, rfl, rfl⟩
  · cases h

/-- A driver that is not started anew stays as it is. -/
theorem start_of_none {fleet fleet' : Fleet} {driver : Nat} {status : DriverStatus}
    (h : fleet.start driver = some (status, none, fleet')) : fleet'.drivers = fleet.drivers := by
  simp only [start, Driver.start, Option.bind_eq_bind, Option.bind_eq_some_iff] at h
  obtain ⟨d, found, h⟩ := h
  split at h
  · cases h
  · cases h
    obtain ⟨lt, rfl⟩ := List.getElem?_eq_some_iff.mp found
    exact List.set_getElem_self lt

/-- The status that a join on a driver ends with, once the driver is over. -/
def join? (fleet : Fleet) (driver : Nat) : Option DriverStatus := do
  let d ← fleet.drivers[driver]?
  if d.isOver then some d.status else none

end Fleet
end Tenure.Standalone
