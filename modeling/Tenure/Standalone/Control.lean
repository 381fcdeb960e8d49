import Tenure.Error

/-!
# Election of an only member

Where there is one replica only, whoever joins the election leads. Its handle tells whether the
replica is advertised and whether it has left.

A call on the handle takes its steps one at a time, and each step reads or writes one of the two
flags; calls of several callers may take theirs in any order. `Control.use` is a call that
nobody interrupts.
-/
namespace Tenure.Standalone

structure Control where
  endpoint : String
  advertised : Bool := false
  left : Bool := false
  deriving DecidableEq

namespace Control

/-- How far a call on a handle has come. -/
inductive Call where
  | advertise
  /-- The replica had not left when this was looked up, and is to be advertised. -/
  | publish
  | leave
  /-- The replica has just left, and is not to be advertised any more. -/
  | withdraw
  | done (result : Except LeadershipError Unit)

def goneError (c : Control) : LeadershipError :=
  .serverSetUpdate (c.endpoint ++ " already left the leader group")

/-- The next step of a call. -/
def step (c : Control) : Call → Call × Control
  | .advertise => (if c.left then .done (.error c.goneError) else .publish, c)
  | .publish => (.done (.ok ()), { c with advertised := true })
  | .leave => (if c.left then .done (.ok ()) else .withdraw, { c with left := true })
  | .withdraw => (.done (.ok ()), { c with advertised := false })
  | .done result => (.done result, c)

def Call.result : Call → Except LeadershipError Unit
  | done result => result
  | _ => .ok ()

/-- A call from its beginning to its end; no call has more than two steps. -/
def use (c : Control) (call : Call) : Except LeadershipError Unit × Control :=
  let (call, c) := c.step call
  let (call, c) := c.step call
  (call.result, c)

def useAll (c : Control) : List Call → List (Except LeadershipError Unit) × Control
  | [] => ([], c)
  | call :: rest =>
    let (result, c) := c.use call
    let (results, c) := c.useAll rest
    (result :: results, c)

/-- After leaving, a replica is not advertised, and an attempt to advertise it fails. -/
theorem use_advertise_of_left (c : Control) (h : c.left = true) :
    c.use .advertise = (.error c.goneError, c) := by
  simp [use, step, h, Call.result]

theorem use_leave_of_left (c : Control) (h : c.left = true) : c.use .leave = (.ok (), c) := by
  cases c
  simp_all [use, step, Call.result]

end Control

/-- A candidate that uses its handle and then takes leadership up, or does not. -/
structure Candidate where
  calls : List Control.Call
  outcome : Except LifecycleError Unit

/-- Offers leadership to a candidate. What its calls on the handle came to, and the handle, which
goes to the caller if the candidate leads. -/
def Candidate.join (candidate : Candidate) (endpoint : String) :
    List (Except LeadershipError Unit) × Except LifecycleError Control :=
  let (results, control) := Control.useAll { endpoint } candidate.calls
  (results, candidate.outcome.map fun () => control)

end Tenure.Standalone
