import Tenure.Proofs.Discipline

/-!
# What entitles a task to a call

The calls of a work are its chores. The chores of a state are due to the task that installs it, in
their order, and each is done when it is the next; so nobody does a chore who was not granted its
state. Some chores also need a look at the variables just before: a driver is started and
leadership made known by a task that has just seen the replica alive, and a grant is advertised by
one that has just found it in the slot.
-/
namespace Tenure.Lifecycle

inductive Chore where
  | prepareStorage
  | repairStorage
  | readFrameworkId
  | createDriver
  | startDriver
  | post
  | advertise
  deriving DecidableEq

def Call.chore? : Call → Option Chore
  | prepareStorage => some .prepareStorage
  | repairStorage => some .repairStorage
  | readFrameworkId => some .readFrameworkId
  | createDriver _ => some .createDriver
  | startDriver _ => some .startDriver
  | post _ => some .post
  | advertise _ => some .advertise
  | _ => none

/-- The chores that fall due with a state, in their order. -/
def chores : State → List Chore
  | .preparingStorage => [.prepareStorage]
  | .leaderAwaitingRegistration => [.repairStorage, .readFrameworkId, .createDriver, .startDriver]
  | .registeredLeader => [.post, .advertise]
  | _ => []

/-- The state that a chore falls due with. -/
def Chore.state : Chore → State
  | prepareStorage => .preparingStorage
  | repairStorage | readFrameworkId | createDriver | startDriver => .leaderAwaitingRegistration
  | post | advertise => .registeredLeader

theorem count_chores (s : State) (chore : Chore) :
    (chores s).count chore = if s = chore.state then 1 else 0 := by
  cases s <;> cases chore <;> rfl

/-- Whether the last thing that a task did entitles it to a call. -/
def Call.Entitled (last : Option Act) : Call → Prop
  | startDriver _ | post _ => ∃ s, s ≠ State.dead ∧ last = some (.accessed .readState s)
  | advertise grant => last = some (.accessed .readSlot (some grant))
  | _ => True

/-- The last thing that a task did, and the chores that it has still to do. -/
structure Warrant where
  last : Option Act := none
  due : List Chore := []

namespace Warrant

/-- The chores that are due after an act. -/
def dueAfter (due : List Chore) : Act → List Chore
  | .accessed (.install target) (.ok _) => chores target
  | .called c => if c.chore?.isSome then due.tail else due
  | _ => due

def discipline : Discipline Warrant where
  start := {}
  after w e := ⟨some e, dueAfter w.due e⟩
  allows w c := (∀ chore, c.chore? = some chore → w.due.head? = some chore) ∧ c.Entitled w.last

theorem allows_of_free {c : Call} (free : c.chore? = none) (w : Warrant) :
    discipline.allows w c := by
  refine ⟨fun chore is => by simp [free] at is, ?_⟩
  cases c <;> trivial

end Warrant

theorem Discipline.Walk.last {acts : List Act} {w : Warrant} (h : Warrant.discipline.Walk acts w) :
    w.last = acts.getLast? := by
  cases h with
  | start => rfl
  | step => simp [Warrant.discipline]

variable {α β : Type}

abbrev Warranted (ends : Option α → Warrant → Prop) (w : Warrant) (p : Program α) : Prop :=
  Warrant.discipline.Abides ends w p

namespace Discipline.Abides

variable {ends : Option α → Warrant → Prop} {w : Warrant}

/-- A call that is no chore is always allowed. -/
theorem askFree {c : Call} {f : c.Answer → Program α} (free : c.chore? = none)
    (panicked : ∀ w, ends none w) (answered : ∀ x w, Warranted ends w (f x)) :
    Warranted ends w (Program.ask c >>= f) :=
  .ask (Warrant.allows_of_free free w) (panicked _) fun x => answered x _

theorem askFreeLast {c : Call} {ends : Option c.Answer → Warrant → Prop} (free : c.chore? = none)
    (any : ∀ x w, ends x w) : Warranted ends w (Program.ask c) :=
  ⟨Warrant.allows_of_free free w, fun x => by cases x <;> exact any _ _⟩

end Discipline.Abides

/-! ## Programs -/

section Teardown

variable {ends : Option Unit → Warrant → Prop} {w : Warrant} (any : ∀ x w, ends x w)

include any

theorem warranted_leaveGroup (taken : Option Grant) : Warranted ends w (leaveGroup taken) := by
  cases taken with
  | none => exact any _ _
  | some grant =>
    refine .askFree rfl (any none) fun x w => ?_
    cases x <;> exact any _ _

theorem warranted_stopDriver (found : Option DriverId) : Warranted ends w (stopDriver found) := by
  cases found with
  | none => exact any _ _
  | some driver => exact .askFree rfl (any none) fun _ _ => any _ _

theorem warranted_stopStorage : Warranted ends w stopStorage := by
  refine .askFree rfl (any none) fun x w => ?_
  cases x <;> exact any _ _

theorem warranted_dismantle : Warranted ends w dismantle := by
  refine .touch fun taken _ => .andThen (warranted_leaveGroup (fun _ _ => trivial) taken)
    (any none) fun _ w => .andThen (.withLock fun _ => .touch fun found _ => ?_)
      (any none) fun _ w => ?_
  · exact warranted_stopDriver (fun _ _ _ => trivial) found
  · exact .andThen (warranted_stopStorage fun _ _ => trivial) (any none) fun _ w =>
      .touch fun _ _ => any _ _

theorem warranted_tearDown : Warranted ends w tearDown := by
  refine .touch fun won _ => ?_
  cases won with
  | false => exact any _ _
  | true => exact .ensure (warranted_dismantle fun _ _ => .askFreeLast rfl fun _ _ => any _ _)

end Teardown

section Requests

variable {last : Option Act} {due : List Chore}

/-- The work of a move begins with the chores of its target. -/
theorem warranted_requestWith {ends : Option Outcome → Warrant → Prop} {w : Warrant}
    (any : ∀ x w, ends x w) {act : Duty → Program Outcome} {target : State}
    (granted : ∀ last, Warranted (fun _ _ => True) ⟨last, chores target⟩
      (match target.duty with | some duty => act duty | none => pure (.ok ()))) :
    Warranted ends w (requestWith act target) := by
  refine .touch fun x hx => ?_
  rcases Access.gives_install hx with ⟨source, rfl⟩ | ⟨source, -, rfl⟩
  · refine .log (.ask (Warrant.allows_of_free rfl _) (any none _) fun _ => ?_)
    cases target with
    | dead =>
      show Warranted ends _ (tearDown >>= fun _ => pure (.ok ()))
      exact .andThen (warranted_tearDown fun _ _ => trivial) (any none) fun _ _ => any _ _
    | idle | storagePrepared | active => exact any _ _
    | preparingStorage | leaderAwaitingRegistration | registeredLeader =>
      exact .andThen (granted _) (any none) fun _ _ => any _ _
  · exact any _ _

variable {ends : Option Outcome → Warrant → Prop} {w : Warrant}

theorem warranted_requestPlain (any : ∀ x w, ends x w) (target : State) :
    Warranted ends w (requestPlain target) := by
  refine warranted_requestWith any fun last => ?_
  cases target <;> trivial

theorem warranted_kill {ends : Option Unit → Warrant → Prop} (any : ∀ x w, ends x w)
    (reason : String) : Warranted ends w (kill reason) := by
  refine .log (.andThen (warranted_requestPlain (fun _ _ => trivial) .dead) (any none)
    fun outcome w => ?_)
  cases outcome <;> exact any _ _

/-! ## The works of a move -/

theorem warranted_prepareStorage (any : ∀ x w, ends x w) :
    Warranted ends ⟨last, chores .preparingStorage⟩ prepareStorage := by
  refine .ask ⟨fun _ eq => eq, trivial⟩ (any none _) fun x => ?_
  cases x with
  | ok =>
    refine .andThen (warranted_requestPlain (fun _ _ => trivial) .storagePrepared) (any none)
      fun outcome w => ?_
    split <;> exact any _ _
  | error e =>
    exact .log (.andThen (warranted_kill (fun _ _ => trivial) _) (any none) fun _ _ => any _ _)

/-- The driver is started right after the replica was seen alive. -/
theorem warranted_startUnlessDead {ends : Option Bool → Warrant → Prop} (any : ∀ x w, ends x w)
    (driver : DriverId) :
    Warranted ends ⟨last, [.startDriver]⟩ (startUnlessDead driver) := by
  refine .touch fun s _ => ?_
  cases s with
  | dead => exact any _ _
  | _ => exact .ask ⟨fun _ eq => eq, _, by simp, rfl⟩ (any none _) fun _ => any _ _

theorem warranted_bringUpDriver {ends : Option Unit → Warrant → Prop} (any : ∀ x w, ends x w)
    (id : Option String) :
    Warranted ends ⟨last, [.createDriver, .startDriver]⟩ (bringUpDriver id) := by
  refine .log (.ask ⟨fun _ eq => eq, trivial⟩ (any none _) fun driver => .touch fun _ _ => ?_)
  refine .ask (Warrant.allows_of_free rfl _) (any none _) fun _ => ?_
  refine .ask (Warrant.allows_of_free rfl _) (any none _) fun _ => ?_
  refine .andThen (.withLock fun _ => warranted_startUnlessDead (fun _ _ _ => trivial) driver)
    (any none) fun started w => ?_
  cases started with
  | true => exact .askFreeLast rfl any
  | false => exact any _ _

theorem warranted_takeLead {ends : Option Unit → Warrant → Prop} (any : ∀ x w, ends x w) :
    Warranted ends ⟨last, chores .leaderAwaitingRegistration⟩ takeLead := by
  refine .log (.ask ⟨fun _ eq => eq, trivial⟩ (any none _) fun x => ?_)
  cases x with
  | error => exact .log (warranted_kill any _)
  | ok =>
    refine .ask ⟨fun _ eq => eq, trivial⟩ (any none _) fun x => ?_
    cases x with
    | error => exact .log (warranted_kill any _)
    | ok id => exact warranted_bringUpDriver any id

/-- An acknowledged registration was acknowledged by a replica that has just been seen alive. -/
theorem warranted_acknowledge {ends : Option Bool → Warrant → Prop}
    (no : ∀ w, ends (some false) w)
    (yes : ∀ s, s ≠ State.dead → ends (some true) ⟨some (.accessed .readState s), due⟩) :
    Warranted ends ⟨last, due⟩ acknowledge := by
  refine .touch fun s _ => ?_
  cases s with
  | dead => exact no _
  | _ =>
    refine .touch fun _ _ => .touch fun s _ => ?_
    cases s with
    | dead => exact .touch fun _ _ => no _
    | _ => exact yes _ (by simp)

theorem warranted_advertise {ends : Option Unit → Warrant → Prop} (any : ∀ x w, ends x w)
    (grant : Grant) :
    Warranted ends ⟨some (.accessed .readSlot (some grant)), [.advertise]⟩ (advertise grant) := by
  refine .ask ⟨fun _ eq => eq, rfl⟩ (any none _) fun x => ?_
  split
  · exact any _ _
  · exact .log (warranted_kill any _)
  · exact .log (warranted_kill any _)

theorem warranted_confirmRegistration {ends : Option Unit → Warrant → Prop}
    (any : ∀ x w, ends x w) :
    Warranted ends ⟨last, chores .registeredLeader⟩ confirmRegistration := by
  refine .bind (warranted_acknowledge (fun _ => any _ _) fun s alive => ?_)
  refine .ask ⟨fun _ eq => eq, s, alive, rfl⟩ (any none _) fun _ => .touch fun held _ => ?_
  cases held with
  | none => exact .log (warranted_kill any _)
  | some grant => exact warranted_advertise any grant

/-! ## Operations -/

theorem warranted_request (any : ∀ x w, ends x w) (target : State) :
    Warranted ends w (request target) := by
  refine warranted_requestWith any fun last => ?_
  cases target with
  | idle | storagePrepared | active | dead => trivial
  | preparingStorage => exact warranted_prepareStorage fun _ _ => trivial
  | leaderAwaitingRegistration =>
    exact .andThen (warranted_takeLead fun _ _ => trivial) (fun _ => trivial) fun _ _ => trivial
  | registeredLeader =>
    exact .andThen (warranted_confirmRegistration fun _ _ => trivial) (fun _ => trivial)
      fun _ _ => trivial

theorem warranted_release {ends : Option Unit → Warrant → Prop} (any : ∀ x w, ends x w)
    (grant : Grant) : Warranted ends w (release grant) := by
  refine .askFree rfl (any none) fun x w => ?_
  cases x <;> exact any _ _

theorem warranted_releaseIfAny {ends : Option Unit → Warrant → Prop} (any : ∀ x w, ends x w)
    (owed : Option Grant) : Warranted ends w (releaseIfAny owed) := by
  cases owed with
  | none => exact any _ _
  | some grant => exact warranted_release any grant

theorem warranted_takeUp (any : ∀ x w, ends x w) (grant : Grant) (previous : Option Grant) :
    Warranted ends w (takeUp grant previous) := by
  refine .andThen (warranted_request (fun _ _ => trivial) .leaderAwaitingRegistration) (any none)
    fun outcome w => ?_
  cases outcome with
  | error e =>
    refine .log (.askFree rfl (any none) fun _ w => .touch fun owed _ => ?_)
    exact .andThen (warranted_releaseIfAny (fun _ _ => trivial) owed) (any none)
      fun _ _ => any _ _
  | ok =>
    cases previous with
    | none => exact any _ _
    | some stale =>
      have left : Warranted ends w (release stale >>= fun _ => pure (.ok ())) :=
        .andThen (warranted_release (fun _ _ => trivial) stale) (any none) fun _ _ => any _ _
      exact left

theorem warranted_lead (any : ∀ x w, ends x w) (grant : Grant) : Warranted ends w (lead grant) :=
  .withLock fun _ => .touch fun previous _ => warranted_takeUp (fun x _ _ => any x _) grant previous

theorem warranted_callback {ends : Option Unit → Warrant → Prop} (any : ∀ x w, ends x w)
    (timer : Timer) : Warranted ends w timer.callback := by
  cases timer with
  | registration =>
    refine .touch fun x _ => ?_
    cases x with
    | true => exact any _ _
    | false =>
      refine .touch fun s _ => ?_
      cases s with
      | dead => exact any _ _
      | _ => exact .log (warranted_kill any _)
  | failover =>
    refine .touch fun s _ => ?_
    cases s with
    | dead => exact any _ _
    | _ => exact .log (warranted_kill any _)
  | join driver => exact .askFree rfl (any none) fun _ _ => .log (warranted_kill any _)

end Requests

/-- Whatever is asked of a replica, every chore is due, and entitled to, when it is done. -/
theorem Operation.warranted : Warrant.discipline.Governs fun _ _ _ => True := by
  have any : ∀ (x : Option Outcome) (w : Warrant), True := fun _ _ => trivial
  intro operation
  cases operation with
  | prepare => exact warranted_request any _
  | lead grant => exact warranted_lead any grant
  | stepDown =>
    exact .andThen (.log (warranted_kill (fun _ _ => trivial) _)) (any none) fun _ _ => trivial
  | registered => exact .log (warranted_request any _)
  | request target => exact warranted_request any target
  | runOut timer =>
    exact .andThen (warranted_callback (fun _ _ => trivial) timer) (any none) fun _ _ => trivial

/-! ## Chores are paid for -/

/-- Whether an act does a chore. -/
def Act.does (chore : Chore) (e : Act) : Bool := e.call?.bind Call.chore? == some chore

/-- Whether an act installs a state. -/
def Act.brings (target : State) (e : Act) : Bool := e.installs? == some target

/-- A chore that is done was due, and one that falls due was brought by its state. -/
theorem Warrant.count_dueAfter {w : Warrant} {e : Act}
    (allowed : ∀ c, e = .called c → Warrant.discipline.allows w c) (chore : Chore) :
    (e.does chore).toNat + (Warrant.dueAfter w.due e).count chore ≤
      w.due.count chore + (e.brings chore.state).toNat := by
  fun_cases Warrant.dueAfter w.due e
  · next target edge =>
    rw [count_chores]
    by_cases own : target = chore.state <;>
      simp [Act.does, Act.brings, Act.call?, Act.installs?, own]
  · next c isChore =>
    obtain ⟨own, is⟩ := Option.isSome_iff_exists.mp isChore
    obtain ⟨rest, eq⟩ := List.head?_eq_some_iff.mp ((allowed c rfl).1 own is)
    cases same : own == chore <;>
      simp [Act.does, Act.brings, Act.call?, Act.installs?, is, eq, same, List.count_cons,
        Nat.add_comm]
  · next c free =>
    have none : c.chore? = none := by simpa using free
    simp [Act.does, Act.brings, Act.call?, Act.installs?, none]
  · next granted called =>
    have silent : e.call? = none := by
      cases e with
      | called c => exact (called c rfl).elim
      | accessed | answered => rfl
    simp [Act.does, silent]

/-- A task does each chore at most as often as it installs the state that the chore falls due
with. -/
theorem Discipline.Walk.count_does {acts : List Act} {w : Warrant}
    (h : Warrant.discipline.Walk acts w) (chore : Chore) :
    acts.countP (·.does chore) + w.due.count chore ≤ acts.countP (·.brings chore.state) := by
  induction h with
  | start => exact Nat.le_refl 0
  | @step acts w e walk allowed ih =>
    have paid := Warrant.count_dueAfter allowed chore
    have split (P : Act → Bool) : (acts ++ [e]).countP P = acts.countP P + (P e).toNat := by
      cases eq : P e <;> simp [List.countP_append, eq]
    rw [split, split]
    show _ + _ + (Warrant.dueAfter w.due e).count chore ≤ _
    omega

end Tenure.Lifecycle
