import Tenure.Lifecycle.Operations

/-!
# Operations under way at once

A replica is used by any number of callers at once. Each operation that was begun is a task: what
is left of its program, or the call that it waits for. A schedule is a list of choices: to begin
an operation, to let a task take its next step, to let a collaborator answer. Every interleaving
is a schedule. An operation begun while a call is open may come from inside that call, so
schedules cover re-entrant use as well; `Rule.reentrant` keeps to it.

`Pool.run` follows a schedule from a fresh replica, as far as a rule permits.
-/
namespace Tenure.Lifecycle

/-! ## Operations -/

/-- What can be asked of a replica, and what may happen to it. -/
inductive Operation where
  | prepare
  | lead (grant : Grant)
  | stepDown (status : Option EndpointStatus)
  | registered (frameworkId : String)
  | request (target : State)
  /-- A timer has run out, or a driver has exited. -/
  | runOut (timer : Timer)
  deriving DecidableEq

/-- A program that cannot be refused, as one that is never refused. -/
def unrefused (program : Program Unit) : Program Outcome := do
  program
  return .ok ()

def Operation.program : Operation → Program Outcome
  | prepare => Lifecycle.prepare
  | lead grant => Lifecycle.lead grant
  | stepDown status => unrefused (Lifecycle.stepDown status)
  | registered frameworkId => Lifecycle.registered frameworkId
  | request target => Lifecycle.request target
  | runOut timer => unrefused timer.callback

/-! ## Traces -/

/-- What a task does that others may notice. -/
inductive Act where
  | accessed (a : Access) (answer : a.Answer)
  | called (c : Call)
  /-- A call has ended; there is no answer if the collaborator panicked. -/
  | answered (c : Call) (answer : Option c.Answer)

def Act.call? : Act → Option Call
  | called c => some c
  | _ => none

/-- The call that an act makes, if it is one of those that are asked for. -/
def Act.callTo? (q : Call → Bool) (e : Act) : Option Call := e.call?.filter q

/-- Acts in the order in which they happened, each with the number of its task. -/
abbrev Trace := List (Nat × Act)

namespace Trace

def calls (t : Trace) : List Call := t.filterMap fun entry => entry.2.call?

def callsBy (i : Nat) (t : Trace) : List Call :=
  t.filterMap fun entry => if entry.1 = i then entry.2.call? else none

end Trace

/-! ## Tasks -/

inductive Task where
  | running (rest : Program Outcome)
  /-- A collaborator was asked and has not answered yet. -/
  | calling (c : Call) (next : Option c.Answer → Program Outcome)

namespace Task

def isOver : Task → Bool
  | running (.done _) => true
  | running .unwind => true
  | _ => false

/-- How a task ended, if it has. -/
def outcome? : Task → Option Outcome
  | running (.done outcome) => some outcome
  | _ => none

instance : DecidableEq Outcome
  | .ok (), .ok () => isTrue rfl
  | .error e, .error e' => decidable_of_iff (e = e') ⟨congrArg _, Except.error.inj⟩
  | .ok (), .error _ | .error _, .ok () => isFalse nofun

/-- The next step of a task: what it does, the variables after it, and what is left. There is
none while the task waits for a lock or an answer, or is over. -/
def advance? (s : Shared) : Task → Option (Option Act × Shared × Task)
  | running (.access a next) =>
    (a.apply s).map fun (x, s) => (some (.accessed a x), s, running (next x))
  | running (.note _ next) => some (none, s, running next)
  | running (.call c next) => some (some (.called c), s, calling c next)
  | _ => none

/-- What is left of a task when its open call ends. -/
def answer? (c : Call) (x : Option c.Answer) : Task → Option Task
  | calling c' next => if h : c = c' then some (running (next (h ▸ x))) else none
  | _ => none

end Task

/-! ## Pools -/

structure Pool where
  shared : Shared := {}
  /-- The operations in the order in which they were begun. -/
  tasks : List (Operation × Task) := []
  trace : Trace := []

inductive Choice where
  | begin (operation : Operation)
  | advance (i : Nat)
  | answer (i : Nat) (c : Call) (answer : Option c.Answer)

/-- Which choices are permitted when. -/
abbrev Rule := Pool → Choice → Bool

namespace Pool

/-- No operation is in progress. -/
def isQuiet (p : Pool) : Bool := p.tasks.all fun entry => entry.2.isOver

/-- Puts down what a task has done. -/
def put (p : Pool) (i : Nat) (operation : Operation) (act : Option Act) (shared : Shared)
    (task : Task) : Pool where
  shared := shared
  tasks := p.tasks.set i (operation, task)
  trace := p.trace ++ (act.map fun act => (i, act)).toList

def step? (p : Pool) : Choice → Option Pool
  | .begin operation =>
    some { p with tasks := p.tasks ++ [(operation, .running operation.program)] }
  | .advance i =>
    p.tasks[i]?.bind fun (operation, task) =>
      (task.advance? p.shared).map fun (act, shared, task) => p.put i operation act shared task
  | .answer i c x =>
    p.tasks[i]?.bind fun (operation, task) =>
      (task.answer? c x).map fun task => p.put i operation (some (.answered c x)) p.shared task

def follow? (rule : Rule) (p : Pool) : List Choice → Option Pool
  | [] => some p
  | choice :: rest =>
    if rule p choice then (p.step? choice).bind fun q => q.follow? rule rest else none

/-- Follows a schedule from a fresh replica. -/
def run (rule : Rule) (schedule : List Choice) : Option Pool := ({} : Pool).follow? rule schedule

end Pool

/-! ## Rules -/

namespace Rule

/-- No collaborator panics. -/
def calm : Rule := fun _ choice =>
  match choice with
  | .answer _ _ x => x.isSome
  | _ => true

end Rule

/-- Whether a collaborator may use the replica before it answers. A driver must not while it is
started, and a notice is given, not asked. -/
def Call.isReentrant : Call → Bool
  | startDriver _ => false
  | notice _ => false
  | _ => true

/-- Whether a task is over or inside a call from which the replica may be used. -/
def Task.isAside : Task → Bool
  | calling c _ => c.isReentrant
  | task => task.isOver

/-- No collaborator panics, and a task moves only while all others are over or inside a call: what
is begun while a call is open comes from inside it. -/
def Rule.reentrant : Rule := fun p choice =>
  calm p choice &&
    match choice with
    | .begin _ => p.tasks.all fun entry => entry.2.isAside
    | .advance i | .answer i _ _ => (p.tasks.eraseIdx i).all fun entry => entry.2.isAside

/-! ## Schedules -/

namespace Choice

/-- Lets a task take some steps to a call, which is then answered. -/
def upTo (i n : Nat) (c : Call) (x : c.Answer) : List Choice :=
  List.replicate n (.advance i) ++ [.answer i c (some x)]

/-- A task makes the storage ready. -/
def prepares (i : Nat) : List Choice :=
  .begin .prepare :: upTo i 3 (.notice (.installed .preparingStorage)) () ++
    upTo i 1 .prepareStorage (.ok ()) ++ upTo i 3 (.notice (.installed .storagePrepared)) ()

/-- A task that has repaired the storage starts a driver. -/
def startsDriver (i : Nat) : List Choice :=
  upTo i 1 .readFrameworkId (.ok none) ++ upTo i 2 (.createDriver none) ⟨0⟩ ++
    upTo i 2 (.arm .registration) () ++ upTo i 1 (.arm .failover) () ++
    upTo i 3 (.startDriver ⟨0⟩) .running ++ upTo i 3 (.arm (.join ⟨0⟩)) ()

/-- While one leads, another grant is offered; the replica dies before it is accepted. -/
def overtaken : List Choice :=
  prepares 0 ++
    .begin (.lead ⟨"a"⟩) :: upTo 1 5 (.notice (.installed .leaderAwaitingRegistration)) () ++
    upTo 1 2 .repairStorage (.ok ()) ++ startsDriver 1 ++ [.advance 1] ++
    [.begin (.lead ⟨"b"⟩), .advance 2, .advance 2, .begin (.stepDown none)] ++
    upTo 3 5 (.notice (.installed .dead)) () ++ upTo 3 3 (.leave ⟨"b"⟩) (.ok ()) ++
    upTo 2 3 (.notice .grantRefused) () ++ upTo 2 2 (.leave ⟨"a"⟩) (.ok ()) ++ [.advance 2] ++
    upTo 3 4 (.stopDriver ⟨0⟩) .stopped ++ upTo 3 3 .stopStorage (.ok ()) ++ upTo 3 3 .shutdown ()

/-- Registration is confirmed from inside the repair of the storage. -/
def confirmedEarly : List Choice :=
  prepares 0 ++
    .begin (.lead ⟨"a"⟩) :: upTo 1 5 (.notice (.installed .leaderAwaitingRegistration)) () ++
    [.advance 1, .advance 1, .begin (.registered "f")] ++
    upTo 2 4 (.notice (.installed .registeredLeader)) () ++
    upTo 2 4 (.post .schedulerActive) () ++ upTo 2 2 (.advertise ⟨"a"⟩) (.ok ()) ++ [.advance 2] ++
    .answer 1 .repairStorage (some (.ok ())) :: startsDriver 1 ++ [.advance 1]

end Choice

/-! ## Induction over runs -/

namespace Pool

/-- What a task does in one step. -/
inductive Moves (s : Shared) : Task → Option Act → Shared → Task → Prop where
  | access {a : Access} {next : a.Answer → Program Outcome} {x : a.Answer} {s' : Shared}
      (apply : a.apply s = some (x, s')) :
      Moves s (.running (.access a next)) (some (.accessed a x)) s' (.running (next x))
  | note {entry : Log.Entry} {next : Program Outcome} :
      Moves s (.running (.note entry next)) none s (.running next)
  | call {c : Call} {next : Option c.Answer → Program Outcome} :
      Moves s (.running (.call c next)) (some (.called c)) s (.calling c next)
  | answer {c : Call} {next : Option c.Answer → Program Outcome} {x : Option c.Answer} :
      Moves s (.calling c next) (some (.answered c x)) s (.running (next x))

/-- The task that a choice lets move. -/
def mover : Choice → Option Nat
  | .begin _ => none
  | .advance i | .answer i _ _ => some i

theorem moves_of_advance? {s s' : Shared} {task task' : Task} {act : Option Act}
    (h : task.advance? s = some (act, s', task')) : Moves s task act s' task' := by
  cases task with
  | running rest =>
    cases rest with
    | done | unwind => simp [Task.advance?] at h
    | access a next =>
      simp only [Task.advance?, Option.map_eq_some_iff, Prod.exists] at h
      obtain ⟨x, t, apply, h⟩ := h
      cases h
      exact .access apply
    | note entry next => cases h; exact .note
    | call c next => cases h; exact .call
  | calling c next => simp [Task.advance?] at h

theorem moves_of_answer? {s : Shared} {task task' : Task} {c : Call} {x : Option c.Answer}
    (h : task.answer? c x = some task') : Moves s task (some (.answered c x)) s task' := by
  cases task with
  | running rest => simp [Task.answer?] at h
  | calling c' next =>
    simp only [Task.answer?] at h
    split at h
    · next hc =>
      subst hc
      cases h
      exact .answer
    · cases h

theorem ne_answered_of_advance? {s s' : Shared} {task task' : Task} {act : Option Act}
    (h : task.advance? s = some (act, s', task')) (c : Call) (x : Option c.Answer) :
    act ≠ some (.answered c x) := by
  rintro rfl
  cases task with
  | running rest =>
    cases rest with
    | access a next =>
      simp only [Task.advance?, Option.map_eq_some_iff] at h
      obtain ⟨_, _, h⟩ := h
      cases h
    | _ => cases h
  | calling c next => cases h

/-- All that a choice can do: it begins an operation, or a task moves. -/
theorem step?_cases {p q : Pool} {choice : Choice} (h : p.step? choice = some q) :
    (∃ operation, choice = .begin operation ∧
      q = { p with tasks := p.tasks ++ [(operation, .running operation.program)] }) ∨
    ∃ i operation task act shared task',
      mover choice = some i ∧ (∀ c x, act = some (.answered c x) → choice = .answer i c x) ∧
        p.tasks[i]? = some (operation, task) ∧ Moves p.shared task act shared task' ∧
          q = p.put i operation act shared task' := by
  cases choice with
  | begin operation => exact .inl ⟨operation, rfl, (Option.some.inj h).symm⟩
  | advance i =>
    simp only [step?, Option.bind_eq_some_iff, Option.map_eq_some_iff, Prod.exists] at h
    obtain ⟨operation, task, hi, act, shared, task', move, rfl⟩ := h
    exact .inr ⟨i, operation, task, act, shared, task', rfl,
      fun c x answered => (ne_answered_of_advance? move c x answered).elim, hi,
      moves_of_advance? move, rfl⟩
  | answer i c x =>
    simp only [step?, Option.bind_eq_some_iff, Option.map_eq_some_iff, Prod.exists] at h
    obtain ⟨operation, task, hi, task', move, rfl⟩ := h
    refine .inr ⟨i, operation, task, _, _, task', rfl, ?_, hi, moves_of_answer? move, rfl⟩
    intro c' x' answered
    cases answered
    rfl

/-- What holds of a fresh replica and is kept by every permitted choice holds after every run. -/
theorem run_induction {rule : Rule} {motive : Pool → Prop} (start : motive {})
    (step : ∀ p q choice, motive p → rule p choice = true → p.step? choice = some q → motive q)
    {schedule : List Choice} {p : Pool} (h : run rule schedule = some p) : motive p := by
  unfold run at h
  generalize ({} : Pool) = q at start h
  induction schedule generalizing q with
  | nil => cases h; exact start
  | cons choice rest ih =>
    simp only [follow?] at h
    split at h
    · next permitted =>
      obtain ⟨q', hq, h⟩ := Option.bind_eq_some_iff.mp h
      exact ih q' (step q q' choice start permitted hq) h
    · cases h

end Pool
end Tenure.Lifecycle
