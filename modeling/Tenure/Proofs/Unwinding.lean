import Tenure.Proofs.DriverGate

/-!
# Operations that a panic may cut short

A collaborator may panic instead of answering, and the operation unwinds. `Survives ends r p` says
of a program what `Follows` says, but with every panic that may come: what a task holds and owes
is its stance, and it only does what its stances allow, whether it goes on or unwinds. At its end
it holds no lock, and if it began the teardown it has signalled.
-/
namespace Tenure.Lifecycle

open Program

/-! ## Panics -/

/-- The signal does not fail, and a notice is given, not asked. Every other call may. -/
def Call.mayPanic : Call → Bool
  | shutdown | notice _ => false
  | _ => true

/-- Any call that may panic does so at will. -/
def Rule.panicking : Rule := fun _ choice =>
  match choice with
  | .answer _ c x => x.isSome || c.mayPanic
  | _ => true

/-! ## Stances -/

/-- How far a task has come with a death, even if a panic cuts it short. -/
inductive Parting where
  | none
  /-- It has installed `dead`. -/
  | dying
  | tearing (stage : Teardown)
  /-- A panic has ended the teardown, and the signal is still to come. -/
  | fleeing (stage : Teardown)
  | parted (stage : Teardown)

namespace Parting

def after : Parting → Act → Parting
  | none, .accessed (.install .dead) (.ok _) => dying
  | dying, .accessed .claimTeardown won => if won then tearing .begun else none
  | tearing stage, .answered _ .none => fleeing stage
  | tearing stage, .called .shutdown => parted stage
  | tearing stage, e =>
    match stage.after e with
    | .tearing next => tearing next
    | _ => tearing stage
  | fleeing stage, .called .shutdown => parted stage
  | d, _ => d

def Allows : Parting → Act → Prop
  | _, .answered _ _ => True
  | dying, .called (.notice _) => True
  | dying, .accessed .claimTeardown _ => True
  | dying, _ => False
  | tearing stage, e => stage.Allows e
  | fleeing _, .called .shutdown => True
  | fleeing _, .accessed (.unlock .driver) _ => True
  | fleeing _, _ => False
  | d, .accessed (.install .dead) _ => d = none
  | _, .accessed .claimTeardown _ => False
  | _, .accessed .takeSlot _ => False
  | _, .accessed .readDriver _ => False
  | _, .called (.stopDriver _) => False
  | _, .called .stopStorage => False
  | _, .called .shutdown => False
  | _, _ => True

def isOver : Parting → Bool
  | none | parted _ => true
  | _ => false

end Parting

/-- Whether an act finds a lock of the task's own as it has to be: free to take it, held to give
it back. -/
def Act.Keyed (holds : Lock → Bool) : Act → Prop
  | accessed (.lock l) _ => holds l = false
  | accessed (.unlock l) _ => holds l = true
  | _ => True

/-- The locks that a task has, and how far it has come with a death. -/
structure Stance where
  grants : Bool := false
  driver : Bool := false
  parting : Parting := .none

namespace Stance

def holds (r : Stance) : Lock → Bool
  | .grants => r.grants
  | .driver => r.driver

def after (r : Stance) (e : Act) : Stance :=
  ⟨e.holdsGrants r.grants, e.holdsDriver r.driver, r.parting.after e⟩

def Allows (r : Stance) (e : Act) : Prop := e.Keyed r.holds ∧ r.parting.Allows e

/-- Between two operations a task holds nothing and owes nothing. -/
structure AtRest (r : Stance) : Prop where
  grants : r.grants = false
  driver : r.driver = false
  parting : r.parting.isOver = true

end Stance

/-- Whether a lock is held after an act. -/
def Act.holds : Lock → Act → Bool → Bool
  | .grants, e, held => e.holdsGrants held
  | .driver, e, held => e.holdsDriver held

theorem Act.isHeld_effect (s : Shared) (e : Act) (k : Lock) :
    (e.effect s).isHeld k = e.holds k (s.isHeld k) := by
  cases k with
  | grants => exact effect_grantsHeld s e
  | driver => exact effect_driverHeld s e

theorem Stance.holds_after (r : Stance) (e : Act) (k : Lock) :
    (r.after e).holds k = e.holds k (r.holds k) := by
  cases k <;> rfl

theorem Act.holds_cases (e : Act) (k : Lock) :
    e = accessed (.lock k) () ∨ e = accessed (.unlock k) () ∨ ∀ held, e.holds k held = held := by
  cases e with
  | called | answered => exact .inr (.inr fun _ => by cases k <;> rfl)
  | accessed a x =>
    cases a with
    | lock l | unlock l => cases k <;> cases l <;> simp [holds, holdsGrants, holdsDriver]
    | _ => exact .inr (.inr fun _ => by cases k <;> rfl)

/-! ## Programs and their stances -/

variable {α β : Type}

/-- A program ends with a result, or unwinds and has none. -/
def Survives (ends : Option α → Stance → Prop) : Stance → Program α → Prop
  | r, .done a => ends (some a) r
  | r, .unwind => ends none r
  | r, .access a next =>
    ∀ x, a.Gives x → r.Allows (.accessed a x) ∧ Survives ends (r.after (.accessed a x)) (next x)
  | r, .note _ next => Survives ends r next
  | r, .call c next =>
    r.Allows (.called c) ∧ ∀ x, x.isSome = true ∨ c.mayPanic = true →
      Survives ends ((r.after (.called c)).after (.answered c x)) (next x)

namespace Survives

variable {ends : Option α → Stance → Prop} {r : Stance}

theorem mono {ends' : Option α → Stance → Prop} {p : Program α} (h : Survives ends r p)
    (weaker : ∀ x r, ends x r → ends' x r) : Survives ends' r p := by
  induction p generalizing r with
  | done | unwind => exact weaker _ _ h
  | access a next ih => exact fun x hx => ⟨(h x hx).1, ih x (h x hx).2⟩
  | note entry next ih => exact ih h
  | call c next ih => exact ⟨h.1, fun x hx => ih x (h.2 x hx)⟩

/-- A panic skips what was to follow. -/
theorem bind {ends : Option β → Stance → Prop} {p : Program α} {f : α → Program β}
    (h : Survives
      (fun x r => match x with | some a => Survives ends r (f a) | none => ends none r) r p) :
    Survives ends r (p >>= f) := by
  rw [Program.bind_eq]
  induction p generalizing r with
  | done | unwind => exact h
  | access a next ih => exact fun x hx => ⟨(h x hx).1, ih x (h x hx).2⟩
  | note entry next ih => exact ih h
  | call c next ih => exact ⟨h.1, fun x hx => ih x (h.2 x hx)⟩

/-- What is put aside for a panic is not skipped. -/
theorem ensure {p : Program α} {last : Program Unit}
    (h : Survives
      (fun x r => Survives (fun y r => ends (y.bind fun _ => x) r) r last) r p) :
    Survives ends r (p.ensure last) := by
  induction p generalizing r with
  | done a =>
    refine bind (mono h fun y r h => ?_)
    cases y <;> exact h
  | unwind =>
    refine bind (mono h fun y r h => ?_)
    cases y <;> exact h
  | access a next ih => exact fun x hx => ⟨(h x hx).1, ih x (h x hx).2⟩
  | note entry next ih => exact ih h
  | call c next ih => exact ⟨h.1, fun x hx => ih x (h.2 x hx)⟩

theorem touch {a : Access} {f : a.Answer → Program α}
    (h : ∀ x, a.Gives x →
      r.Allows (.accessed a x) ∧ Survives ends (r.after (.accessed a x)) (f x)) :
    Survives ends r (Program.touch a >>= f) := h

theorem log {entry : Log.Entry} {f : Unit → Program α} (h : Survives ends r (f ())) :
    Survives ends r (Program.log entry >>= f) := h

theorem ask {c : Call} {f : c.Answer → Program α} (allowed : r.Allows (.called c))
    (panicked : c.mayPanic = true → ends none ((r.after (.called c)).after (.answered c none)))
    (answered : ∀ x, Survives ends ((r.after (.called c)).after (.answered c (some x))) (f x)) :
    Survives ends r (Program.ask c >>= f) := by
  refine ⟨allowed, fun x may => ?_⟩
  cases x with
  | some x => exact answered x
  | none => exact panicked (may.resolve_left nofun)

theorem askLast {c : Call} {ends : Option c.Answer → Stance → Prop}
    (allowed : r.Allows (.called c))
    (panicked : c.mayPanic = true → ends none ((r.after (.called c)).after (.answered c none)))
    (answered : ∀ x, ends (some x) ((r.after (.called c)).after (.answered c (some x)))) :
    Survives ends r (Program.ask c) := by
  rw [← Program.bind_done (Program.ask c)]
  exact ask allowed panicked answered

end Survives

/-- What has no part in a death ends as it began, or after one, with no lock but the one on
grants. -/
def Rests (g : Bool) : Option α → Stance → Prop := fun _ r =>
  ∃ d : Parting, d.isOver = true ∧ r = ⟨g, false, d⟩

theorem Survives.then {g : Bool} {ends : Option β → Stance → Prop} {r : Stance} {p : Program α}
    {f : α → Program β} (h : Survives (Rests g) r p)
    (panicked : ∀ d : Parting, d.isOver = true → ends none ⟨g, false, d⟩)
    (next : ∀ a (d : Parting), d.isOver = true → Survives ends ⟨g, false, d⟩ (f a)) :
    Survives ends r (p >>= f) := by
  refine .bind (h.mono fun x r ⟨d, ended, eq⟩ => ?_)
  subst eq
  cases x with
  | some a => exact next a d ended
  | none => exact panicked d ended

/-! ## Teardown -/

section Teardown

variable {g : Bool} {taken : Option Grant} {found : Option DriverId}

theorem survives_leaveGroup {ends : Option Unit → Stance → Prop}
    (fled : ∀ stage, ends none ⟨g, false, .fleeing stage⟩)
    (rest : ends (some ()) ⟨g, false, .tearing (.left taken)⟩) :
    Survives ends ⟨g, false, .tearing (.ofTaken taken)⟩ (leaveGroup taken) := by
  cases taken with
  | none => exact rest
  | some grant =>
    refine .ask ⟨trivial, rfl⟩ (fun _ => fled _) fun x => ?_
    cases x with
    | ok => exact rest
    | error => exact rest

theorem survives_stopDriver {ends : Option Unit → Stance → Prop}
    (fled : ∀ stage, ends none ⟨g, true, .fleeing stage⟩)
    (rest : ends (some ()) ⟨g, true, .tearing (.stopped taken found)⟩) :
    Survives ends ⟨g, true, .tearing (.ofFound taken found)⟩ (stopDriver found) := by
  cases found with
  | none => exact rest
  | some driver => exact .ask ⟨trivial, rfl⟩ (fun _ => fled _) fun _ => rest

theorem survives_stopStorage {ends : Option Unit → Stance → Prop}
    (fled : ∀ stage, ends none ⟨g, false, .fleeing stage⟩)
    (rest : ends (some ()) ⟨g, false, .tearing (.halted taken found)⟩) :
    Survives ends ⟨g, false, .tearing (.exited taken found)⟩ stopStorage := by
  refine .ask ⟨trivial, trivial⟩ (fun _ => fled _) fun x => ?_
  cases x with
  | ok => exact rest
  | error => exact rest

theorem survives_dismantle {ends : Option Unit → Stance → Prop}
    (fled : ∀ stage, ends none ⟨g, false, .fleeing stage⟩)
    (rest : ∀ taken found, ends (some ()) ⟨g, false, .tearing (.cleared taken found)⟩) :
    Survives ends ⟨g, false, .tearing .begun⟩ dismantle := by
  refine .touch fun taken _ => ⟨⟨trivial, trivial⟩, .bind (survives_leaveGroup fled ?_)⟩
  refine .bind (.touch fun _ _ => ⟨⟨rfl, trivial⟩, .ensure ?_⟩)
  refine .touch fun found _ => ⟨⟨trivial, trivial⟩, survives_stopDriver (fun stage => ?_) ?_⟩
  · exact fun _ _ => ⟨⟨rfl, trivial⟩, fled stage⟩
  · refine fun _ _ => ⟨⟨rfl, trivial⟩, .bind (survives_stopStorage fled ?_)⟩
    exact .touch fun _ _ => ⟨⟨trivial, rfl⟩, rest taken found⟩

/-- However far a teardown comes, its signal goes out. -/
theorem survives_tearDown : Survives (Rests g) ⟨g, false, .dying⟩ tearDown := by
  refine .touch fun won _ => ⟨⟨trivial, trivial⟩, ?_⟩
  cases won with
  | false => exact ⟨.none, rfl, rfl⟩
  | true =>
    refine .ensure (survives_dismantle (fun stage => ?_) fun taken found => ?_)
    · exact .askLast ⟨trivial, trivial⟩ nofun fun _ => ⟨.parted stage, rfl, rfl⟩
    · exact .askLast ⟨trivial, trivial⟩ nofun
        fun _ => ⟨.parted (.cleared taken found), rfl, rfl⟩

end Teardown

/-! ## Requests -/

section Requests

variable {g : Bool}

theorem survives_requestWith {act : Duty → Program Outcome} {target : State}
    (work : ∀ duty, target.duty = some duty →
      Survives (Rests g) ⟨g, false, .none⟩ (act duty)) :
    Survives (Rests g) ⟨g, false, .none⟩ (requestWith act target) := by
  refine .touch fun x hx => ⟨⟨trivial, ?_⟩, ?_⟩
  · cases target <;> first | rfl | trivial
  rcases Access.gives_install hx with ⟨source, rfl⟩ | ⟨source, none, rfl⟩
  · cases target with
    | dead =>
      refine .log (.ask ⟨trivial, trivial⟩ nofun fun _ => ?_)
      exact survives_tearDown.then (fun d ended => ⟨d, ended, rfl⟩) fun _ d ended => ⟨d, ended, rfl⟩
    | idle | storagePrepared | active =>
      exact .log (.ask ⟨trivial, trivial⟩ nofun fun _ => ⟨.none, rfl, rfl⟩)
    | preparingStorage | leaderAwaitingRegistration | registeredLeader =>
      refine .log (.ask ⟨trivial, trivial⟩ nofun fun _ => ?_)
      exact (work _ rfl).then (fun d ended => ⟨d, ended, rfl⟩) fun _ d ended => ⟨d, ended, rfl⟩
  · cases target with
    | dead => simp [Edge.between?_dead] at none
    | _ => exact ⟨.none, rfl, rfl⟩

theorem survives_requestPlain (target : State) :
    Survives (Rests g) ⟨g, false, .none⟩ (requestPlain target) :=
  survives_requestWith fun _ _ => ⟨.none, rfl, rfl⟩

theorem survives_kill (reason : String) : Survives (Rests g) ⟨g, false, .none⟩ (kill reason) := by
  refine .log ((survives_requestPlain .dead).then (fun d ended => ⟨d, ended, rfl⟩) ?_)
  intro outcome d ended
  cases outcome with
  | ok => exact ⟨d, ended, rfl⟩
  | error => exact ⟨d, ended, rfl⟩

/-! ## The works of a move -/

theorem survives_prepareStorage : Survives (Rests g) ⟨g, false, .none⟩ prepareStorage := by
  refine .ask ⟨trivial, trivial⟩ (fun _ => ⟨.none, rfl, rfl⟩) fun x => ?_
  cases x with
  | ok =>
    refine (survives_requestPlain .storagePrepared).then (fun d ended => ⟨d, ended, rfl⟩) ?_
    intro outcome d ended
    split <;> exact ⟨d, ended, rfl⟩
  | error =>
    exact .log ((survives_kill _).then (fun d ended => ⟨d, ended, rfl⟩)
      fun _ d ended => ⟨d, ended, rfl⟩)

theorem survives_startUnlessDead (driver : DriverId) :
    Survives (fun _ r => r = ⟨g, true, .none⟩) ⟨g, true, .none⟩ (startUnlessDead driver) := by
  refine .touch fun x _ => ⟨⟨trivial, trivial⟩, ?_⟩
  cases x with
  | dead => rfl
  | _ => exact .ask ⟨trivial, trivial⟩ (fun _ => rfl) fun _ => rfl

theorem survives_bringUpDriver (id : Option String) :
    Survives (Rests g) ⟨g, false, .none⟩ (bringUpDriver id) := by
  have panicked : Rests (α := Unit) g none ⟨g, false, .none⟩ := ⟨.none, rfl, rfl⟩
  refine .log (.ask ⟨trivial, trivial⟩ (fun _ => panicked) fun driver => ?_)
  refine .touch fun _ _ => ⟨⟨trivial, trivial⟩, ?_⟩
  refine .ask ⟨trivial, trivial⟩ (fun _ => panicked) fun _ => ?_
  refine .ask ⟨trivial, trivial⟩ (fun _ => panicked) fun _ => ?_
  refine .bind (.touch fun _ _ => ⟨⟨rfl, trivial⟩, .ensure ?_⟩)
  refine (survives_startUnlessDead driver).mono fun x r eq => ?_
  subst eq
  refine fun _ _ => ⟨⟨rfl, trivial⟩, ?_⟩
  match x with
  | none => exact panicked
  | some false => exact ⟨.none, rfl, rfl⟩
  | some true => exact .askLast ⟨trivial, trivial⟩ (fun _ => panicked) fun _ => ⟨.none, rfl, rfl⟩

theorem survives_takeLead : Survives (Rests g) ⟨g, false, .none⟩ takeLead := by
  refine .log (.ask ⟨trivial, trivial⟩ (fun _ => ⟨.none, rfl, rfl⟩) fun x => ?_)
  cases x with
  | error => exact .log (survives_kill _)
  | ok =>
    refine .ask ⟨trivial, trivial⟩ (fun _ => ⟨.none, rfl, rfl⟩) fun x => ?_
    cases x with
    | error => exact .log (survives_kill _)
    | ok id => exact survives_bringUpDriver id

theorem survives_acknowledge :
    Survives (fun _ r => r = ⟨g, false, .none⟩) ⟨g, false, .none⟩ acknowledge := by
  refine .touch fun x _ => ⟨⟨trivial, trivial⟩, ?_⟩
  cases x with
  | dead => rfl
  | _ =>
    refine .touch fun _ _ => ⟨⟨trivial, trivial⟩, .touch fun x _ => ⟨⟨trivial, trivial⟩, ?_⟩⟩
    cases x with
    | dead => exact .touch fun _ _ => ⟨⟨trivial, trivial⟩, rfl⟩
    | _ => rfl

theorem survives_advertise (grant : Grant) :
    Survives (Rests g) ⟨g, false, .none⟩ (advertise grant) := by
  refine .ask ⟨trivial, trivial⟩ (fun _ => ⟨.none, rfl, rfl⟩) fun x => ?_
  match x with
  | .ok () => exact ⟨.none, rfl, rfl⟩
  | .error .interrupted => exact .log (survives_kill _)
  | .error (.join _) => exact .log (survives_kill _)
  | .error (.serverSetUpdate _) => exact .log (survives_kill _)

theorem survives_confirmRegistration :
    Survives (Rests g) ⟨g, false, .none⟩ confirmRegistration := by
  refine .bind (survives_acknowledge.mono fun x r eq => ?_)
  subst eq
  match x with
  | none => exact ⟨.none, rfl, rfl⟩
  | some false => exact ⟨.none, rfl, rfl⟩
  | some true =>
    refine .ask ⟨trivial, trivial⟩ (fun _ => ⟨.none, rfl, rfl⟩) fun _ => ?_
    refine .touch fun held _ => ⟨⟨trivial, trivial⟩, ?_⟩
    cases held with
    | none => exact .log (survives_kill _)
    | some grant => exact survives_advertise grant

theorem survives_work (duty : Duty) : Survives (Rests g) ⟨g, false, .none⟩ (work duty) := by
  cases duty with
  | prepareStorage => exact survives_prepareStorage
  | takeLead =>
    exact survives_takeLead.then (fun d ended => ⟨d, ended, rfl⟩) fun _ d ended => ⟨d, ended, rfl⟩
  | confirmRegistration =>
    exact survives_confirmRegistration.then (fun d ended => ⟨d, ended, rfl⟩)
      fun _ d ended => ⟨d, ended, rfl⟩

end Requests

/-! ## Operations -/

theorem survives_request {g : Bool} (target : State) :
    Survives (Rests g) ⟨g, false, .none⟩ (request target) :=
  survives_requestWith fun duty _ => survives_work duty

theorem survives_release {g : Bool} {d : Parting} (ended : d.isOver = true) (grant : Grant) :
    Survives (Rests g) ⟨g, false, d⟩ (release grant) := by
  cases d with
  | dying | tearing | fleeing => cases ended
  | none | parted =>
    refine .ask ⟨trivial, trivial⟩ (fun _ => ⟨_, ended, rfl⟩) fun x => ?_
    cases x with
    | ok => exact ⟨_, ended, rfl⟩
    | error => exact ⟨_, ended, rfl⟩

theorem survives_takeUp (grant : Grant) (previous : Option Grant) :
    Survives (Rests true) ⟨true, false, .none⟩ (takeUp grant previous) := by
  have rests (x : Option Outcome) (d : Parting) (ended : d.isOver = true) :
      Rests true x ⟨true, false, d⟩ := ⟨d, ended, rfl⟩
  refine (survives_request .leaderAwaitingRegistration).then (rests none) ?_
  intro outcome d ended
  cases outcome with
  | error e =>
    have tail (owed : Option Grant) :
        Survives (Rests true) ⟨true, false, d⟩
          (releaseIfAny owed >>= fun _ => pure (Except.error e : Outcome)) := by
      cases owed with
      | none => exact rests _ d ended
      | some owed => exact (survives_release ended owed).then (rests none) fun _ => rests _
    cases d with
    | dying | tearing | fleeing => cases ended
    | none | parted =>
      refine .log (.ask ⟨trivial, trivial⟩ nofun fun _ => ?_)
      exact .touch fun owed _ => ⟨⟨trivial, trivial⟩, tail owed⟩
  | ok =>
    cases previous with
    | none => exact rests _ d ended
    | some stale =>
      exact .log ((survives_release ended stale).then (rests none) fun _ => rests _)

theorem survives_lead (grant : Grant) :
    Survives (fun _ r => r.AtRest) {} (lead grant) := by
  refine .touch fun _ _ => ⟨⟨rfl, trivial⟩, .ensure ?_⟩
  refine .touch fun previous _ => ⟨⟨trivial, trivial⟩, ?_⟩
  refine (survives_takeUp grant previous).mono fun x r ⟨d, ended, eq⟩ => ?_
  subst eq
  cases d with
  | dying | tearing | fleeing => cases ended
  | none | parted => exact fun _ _ => ⟨⟨rfl, trivial⟩, ⟨rfl, rfl, rfl⟩⟩

theorem Rests.atRest {x : Option α} {r : Stance} (h : Rests false x r) : r.AtRest := by
  obtain ⟨d, ended, rfl⟩ := h
  exact ⟨rfl, rfl, ended⟩

theorem survives_callback (timer : Timer) :
    Survives (Rests false) {} timer.callback := by
  have done : Rests false (some ()) {} := ⟨.none, rfl, rfl⟩
  cases timer with
  | registration =>
    refine .touch fun x _ => ⟨⟨trivial, trivial⟩, ?_⟩
    cases x with
    | true => exact done
    | false =>
      refine .touch fun x _ => ⟨⟨trivial, trivial⟩, ?_⟩
      cases x with
      | dead => exact done
      | _ => exact .log (survives_kill _)
  | failover =>
    refine .touch fun x _ => ⟨⟨trivial, trivial⟩, ?_⟩
    cases x with
    | dead => exact done
    | _ => exact .log (survives_kill _)
  | join driver =>
    exact .ask ⟨trivial, trivial⟩ (fun _ => ⟨.none, rfl, rfl⟩) fun _ => .log (survives_kill _)

theorem survives_unrefused {p : Program Unit} (h : Survives (Rests false) {} p) :
    Survives (Rests false) {} (unrefused p) :=
  h.then (fun d ended => ⟨d, ended, rfl⟩) fun _ d ended => ⟨d, ended, rfl⟩

/-- Whatever is asked of a replica and whatever panics, in the end no lock is held and no signal
is owed. -/
theorem Operation.survives (operation : Operation) :
    Survives (fun _ r => r.AtRest) {} operation.program := by
  cases operation with
  | lead grant => exact survives_lead grant
  | prepare => exact (survives_request _).mono fun _ _ => Rests.atRest
  | stepDown => exact (survives_unrefused (.log (survives_kill _))).mono fun _ _ => Rests.atRest
  | registered => exact .log ((survives_request _).mono fun _ _ => Rests.atRest)
  | request target => exact (survives_request target).mono fun _ _ => Rests.atRest
  | runOut timer =>
    exact (survives_unrefused (survives_callback timer)).mono fun _ _ => Rests.atRest

end Tenure.Lifecycle
