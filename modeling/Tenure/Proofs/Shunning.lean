import Tenure.Proofs.Unwinding

/-!
# The lock on grants comes first

Grants are taken up under a lock, and no operation asks for it but the one that takes a grant up,
as the first thing that it does. So whoever holds the driver's lock, or any other, never waits for
the lock on grants.
-/
namespace Tenure.Lifecycle

open Program

variable {α β : Type}

/-- A program never asks for a lock. -/
def Program.Shuns (l : Lock) : Program α → Prop
  | done _ | unwind => True
  | access a next => a ≠ .lock l ∧ ∀ x, (next x).Shuns l
  | note _ next => next.Shuns l
  | call _ next => ∀ x, (next x).Shuns l

namespace Program.Shuns

variable {l : Lock} {p : Program α} {f : α → Program β}

theorem bind (first : p.Shuns l) (next : ∀ a, (f a).Shuns l) : (p >>= f).Shuns l := by
  rw [Program.bind_eq]
  induction p with
  | done a => exact next a
  | unwind => trivial
  | access a rest ih => exact ⟨first.1, fun x => ih x (first.2 x)⟩
  | note entry rest ih => exact ih first
  | call c rest ih => exact fun x => ih x (first x)

theorem ensure {last : Program Unit} (body : p.Shuns l) (last_shuns : last.Shuns l) :
    (p.ensure last).Shuns l := by
  induction p with
  | done | unwind => exact bind last_shuns fun _ => trivial
  | access a rest ih => exact ⟨body.1, fun x => ih x (body.2 x)⟩
  | note entry rest ih => exact ih body
  | call c rest ih => exact fun x => ih x (body x)

theorem touch {a : Access} {f : a.Answer → Program α} (other : a ≠ .lock l)
    (next : ∀ x, (f x).Shuns l) : (Program.touch a >>= f).Shuns l := ⟨other, next⟩

theorem log {entry : Log.Entry} {f : Unit → Program α} (next : (f ()).Shuns l) :
    (Program.log entry >>= f).Shuns l := next

theorem ask (c : Call) {f : c.Answer → Program α} (next : ∀ x, (f x).Shuns l) :
    (Program.ask c >>= f).Shuns l := fun x => by
  cases x with
  | some x => exact next x
  | none => trivial

theorem askLast (c : Call) : (Program.ask c).Shuns l := fun x => by cases x <;> trivial

theorem withLock {other : Lock} (differs : other ≠ l) (body : p.Shuns l) :
    (Program.withLock other p).Shuns l :=
  ⟨by simpa using differs, fun _ => body.ensure ⟨nofun, fun _ => trivial⟩⟩

end Program.Shuns

/-! ## Operations -/

section Operations

theorem shuns_leaveGroup (taken : Option Grant) : (leaveGroup taken).Shuns .grants := by
  cases taken with
  | none => trivial
  | some grant => exact .ask _ fun x => by cases x <;> trivial

theorem shuns_stopDriver (found : Option DriverId) : (stopDriver found).Shuns .grants := by
  cases found with
  | none => trivial
  | some driver => exact .ask _ fun _ => trivial

theorem shuns_dismantle : dismantle.Shuns .grants := by
  refine .touch nofun fun taken => .bind (shuns_leaveGroup taken) fun _ => ?_
  refine .bind (.withLock nofun (.touch nofun shuns_stopDriver)) fun _ => .bind ?_ fun _ => ?_
  · exact .ask _ fun x => by cases x <;> trivial
  · exact .touch nofun fun _ => trivial

theorem shuns_tearDown : tearDown.Shuns .grants := by
  refine .touch nofun fun won => ?_
  cases won with
  | false => trivial
  | true => exact shuns_dismantle.ensure (.askLast _)

theorem shuns_requestWith {act : Duty → Program Outcome} (work : ∀ duty, (act duty).Shuns .grants)
    (target : State) : (requestWith act target).Shuns .grants := by
  refine .touch nofun fun x => ?_
  cases x with
  | error => trivial
  | ok edge =>
    have ended (outcome : Outcome) : (do
        if edge.target.isDead then tearDown
        return outcome : Program Outcome).Shuns .grants := by
      cases edge.target.isDead with
      | false => trivial
      | true => exact .bind shuns_tearDown fun _ => trivial
    refine .ask _ fun _ => ?_
    cases edge.duty with
    | none => exact ended _
    | some duty => exact .bind (work duty) ended

theorem shuns_requestPlain (target : State) : (requestPlain target).Shuns .grants := by
  refine shuns_requestWith (fun _ => ?_) target
  trivial

theorem shuns_kill (reason : String) : (kill reason).Shuns .grants :=
  .log (.bind (shuns_requestPlain .dead) fun outcome => by cases outcome <;> trivial)

theorem shuns_prepareStorage : prepareStorage.Shuns .grants := by
  refine .ask _ fun x => ?_
  cases x with
  | error => exact .log (.bind (shuns_kill _) fun _ => trivial)
  | ok =>
    refine .bind (shuns_requestPlain _) fun outcome => ?_
    split <;> trivial

theorem shuns_startUnlessDead (driver : DriverId) : (startUnlessDead driver).Shuns .grants := by
  refine .touch nofun fun s => ?_
  cases s with
  | dead => trivial
  | _ => exact .ask _ fun _ => trivial

theorem shuns_bringUpDriver (id : Option String) : (bringUpDriver id).Shuns .grants := by
  refine .ask _ fun driver => .touch nofun fun _ => .ask _ fun _ => .ask _ fun _ => ?_
  refine .bind (.withLock nofun (shuns_startUnlessDead driver)) fun started => ?_
  cases started with
  | false => trivial
  | true => exact .askLast _

theorem shuns_takeLead : takeLead.Shuns .grants := by
  refine .ask _ fun x => ?_
  cases x with
  | error => exact shuns_kill _
  | ok =>
    refine .ask _ fun x => ?_
    cases x with
    | error => exact shuns_kill _
    | ok id => exact shuns_bringUpDriver id

theorem shuns_acknowledge : acknowledge.Shuns .grants := by
  refine .touch nofun fun s => ?_
  cases s with
  | dead => trivial
  | _ =>
    refine .touch nofun fun _ => .touch nofun fun s => ?_
    cases s with
    | dead => exact .touch nofun fun _ => trivial
    | _ => trivial

theorem shuns_advertise (grant : Grant) : (advertise grant).Shuns .grants := by
  refine .ask _ fun x => ?_
  match x with
  | .ok () => trivial
  | .error .interrupted | .error (.join _) | .error (.serverSetUpdate _) => exact shuns_kill _

theorem shuns_confirmRegistration : confirmRegistration.Shuns .grants := by
  refine .bind shuns_acknowledge fun acknowledged => ?_
  cases acknowledged with
  | false => trivial
  | true =>
    refine .ask _ fun _ => .touch nofun fun held => ?_
    cases held with
    | none => exact shuns_kill _
    | some grant => exact shuns_advertise grant

theorem shuns_work (duty : Duty) : (work duty).Shuns .grants := by
  cases duty with
  | prepareStorage => exact shuns_prepareStorage
  | takeLead => exact .bind shuns_takeLead fun _ => trivial
  | confirmRegistration => exact .bind shuns_confirmRegistration fun _ => trivial

theorem shuns_request (target : State) : (request target).Shuns .grants :=
  shuns_requestWith shuns_work target

theorem shuns_release (grant : Grant) : (release grant).Shuns .grants :=
  .ask _ fun x => by cases x <;> trivial

theorem shuns_takeUp (grant : Grant) (previous : Option Grant) :
    (takeUp grant previous).Shuns .grants := by
  refine .bind (shuns_request _) fun outcome => ?_
  cases outcome with
  | error =>
    refine .log (.ask _ fun _ => .touch nofun fun owed => .bind ?_ fun _ => trivial)
    cases owed with
    | none => trivial
    | some owed => exact shuns_release owed
  | ok =>
    cases previous with
    | none => trivial
    | some stale => exact .log (.bind (shuns_release stale) fun _ => trivial)

theorem shuns_callback (timer : Timer) : timer.callback.Shuns .grants := by
  cases timer with
  | registration =>
    refine .touch nofun fun acknowledged => ?_
    cases acknowledged with
    | true => trivial
    | false =>
      refine .touch nofun fun s => ?_
      cases s with
      | dead => trivial
      | _ => exact shuns_kill _
  | failover =>
    refine .touch nofun fun s => ?_
    cases s with
    | dead => trivial
    | _ => exact shuns_kill _
  | join driver => exact .ask _ fun _ => shuns_kill _

/-- An operation asks for the lock on grants first, or not at all. -/
theorem Operation.shuns (operation : Operation) :
    operation.program.Shuns .grants ∨
      ∃ next, operation.program = .access (.lock .grants) next ∧ ∀ x, (next x).Shuns .grants := by
  cases operation with
  | prepare => exact .inl (shuns_request _)
  | lead grant =>
    refine .inr ⟨_, rfl, fun _ => ?_⟩
    exact .ensure (p := touch (.replaceSlot grant) >>= takeUp grant)
      ⟨nofun, fun previous => shuns_takeUp grant previous⟩ ⟨nofun, fun _ => trivial⟩
  | stepDown => exact .inl (.bind (.log (shuns_kill _)) fun _ => trivial)
  | registered => exact .inl (.log (shuns_request _))
  | request target => exact .inl (shuns_request target)
  | runOut timer => exact .inl (.bind (shuns_callback timer) fun _ => trivial)

end Operations

end Tenure.Lifecycle
