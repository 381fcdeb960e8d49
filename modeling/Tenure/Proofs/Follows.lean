import Tenure.Proofs.Place

/-!
# Programs keep to their places

`Follows ends r p` says that a task at the place `r` with the program `p` left to it only does
what its places allow, and that it ends as `ends` says, whatever the variables hold and the
collaborators answer. Each program of a replica is followed once, from the callers' side: what
has to hold at the place it leads to for the rest to go on.
-/
namespace Tenure

/-- The work of every move to a state. -/
def State.duty : State → Option Duty
  | preparingStorage => some .prepareStorage
  | leaderAwaitingRegistration => some .takeLead
  | registeredLeader => some .confirmRegistration
  | _ => none

theorem Edge.eq_of_between? {source target : State} {edge : Edge}
    (h : Edge.between? source target = some edge) : edge = ⟨source, target, target.duty⟩ := by
  cases source <;> cases target <;> cases h <;> rfl

theorem Edge.eq_of_move {source target : State} {edge : Edge}
    (granted : source.move target = .ok edge) : edge = ⟨source, target, target.duty⟩ := by
  rw [State.move] at granted
  cases between : between? source target with
  | none => simp [between] at granted
  | some found =>
    rw [between] at granted
    cases granted
    exact eq_of_between? between

namespace Lifecycle

open Program

/-- Whether there are variables of which an access gives this answer. -/
def Access.Gives (a : Access) (x : a.Answer) : Prop := ∃ s s', a.apply s = some (x, s')

/-- A request is granted or refused by the graph alone. -/
theorem Access.gives_install {target : State} {x : Except IllegalMove Edge}
    (h : (Access.install target).Gives x) :
    (∃ source, x = .ok ⟨source, target, target.duty⟩) ∨
      ∃ source, Edge.between? source target = none ∧ x = .error ⟨source, target⟩ := by
  obtain ⟨s, s', h⟩ := h
  simp only [Access.apply, Shared.install, State.move] at h
  cases hb : Edge.between? s.state target with
  | some edge =>
    simp only [hb, Option.some.injEq, Prod.mk.injEq] at h
    exact .inl ⟨s.state, by rw [← h.1, Edge.eq_of_between? hb]⟩
  | none =>
    simp only [hb, Option.some.injEq, Prod.mk.injEq] at h
    exact .inr ⟨s.state, hb, h.1.symm⟩

variable {α β : Type}

def Follows (ends : α → Place → Prop) : Place → Program α → Prop
  | r, .done a => ends a r
  | _, .unwind => False
  | r, .access a next =>
    ∀ x, a.Gives x → r.Allows (.accessed a x) ∧ Follows ends (r.after (.accessed a x)) (next x)
  | r, .note _ next => Follows ends r next
  | r, .call c next =>
    r.Allows (.called c) ∧
      ∀ x, (r.after (.called c)).Allows (.answered c (some x)) ∧
        Follows ends ((r.after (.called c)).after (.answered c (some x))) (next (some x))

namespace Follows

variable {ends : α → Place → Prop} {r : Place}

/-! ## Rules -/

theorem bind {ends : β → Place → Prop} {p : Program α} {f : α → Program β}
    (h : Follows (fun a r => Follows ends r (f a)) r p) : Follows ends r (p >>= f) := by
  rw [Program.bind_eq]
  induction p generalizing r with
  | done a => exact h
  | unwind => exact h.elim
  | access a next ih => exact fun x hx => ⟨(h x hx).1, ih x (h x hx).2⟩
  | note entry next ih => exact ih h
  | call c next ih => exact ⟨h.1, fun x => ⟨(h.2 x).1, ih _ (h.2 x).2⟩⟩

theorem ensure {p : Program α} {last : Program Unit}
    (h : Follows (fun a r => Follows (fun _ r => ends a r) r last) r p) :
    Follows ends r (p.ensure last) := by
  induction p generalizing r with
  | done a => exact bind h
  | unwind => exact h.elim
  | access a next ih => exact fun x hx => ⟨(h x hx).1, ih x (h x hx).2⟩
  | note entry next ih => exact ih h
  | call c next ih => exact ⟨h.1, fun x => ⟨(h.2 x).1, ih _ (h.2 x).2⟩⟩

theorem touch {a : Access} {f : a.Answer → Program α}
    (h : ∀ x, a.Gives x →
      r.Allows (.accessed a x) ∧ Follows ends (r.after (.accessed a x)) (f x)) :
    Follows ends r (Program.touch a >>= f) := h

theorem log {entry : Log.Entry} {f : Unit → Program α} (h : Follows ends r (f ())) :
    Follows ends r (Program.log entry >>= f) := h

theorem ask {c : Call} {f : c.Answer → Program α}
    (h : r.Allows (.called c) ∧
      ∀ x, (r.after (.called c)).Allows (.answered c (some x)) ∧
        Follows ends ((r.after (.called c)).after (.answered c (some x))) (f x)) :
    Follows ends r (Program.ask c >>= f) := h

end Follows

/-- A program ends with a result if no call panics. -/
def Completes : Program α → Prop
  | .done _ => True
  | .unwind => False
  | .access a next => ∀ x, a.Gives x → Completes (next x)
  | .note _ next => Completes next
  | .call _ next => ∀ x, Completes (next (some x))

theorem Follows.completes {ends : α → Place → Prop} {r : Place} {p : Program α}
    (h : Follows ends r p) : Completes p := by
  induction p generalizing r with
  | done => trivial
  | unwind => exact h
  | access a next ih => exact fun x hx => ih x (h x hx).2
  | note entry next ih => exact ih h
  | call c next ih => exact fun x => ih _ (h.2 x).2

/-! ## Teardown -/

section Teardown

variable {ends : Unit → Place → Prop} {h : Hold} {p : Preparing} {l : Leading} {c : Confirming}
  {taken : Option Grant} {found : Option DriverId}

theorem follows_leaveGroup (rest : ends () ⟨h, p, l, c, .tearing (.left taken)⟩) :
    Follows ends ⟨h, p, l, c, .tearing (.ofTaken taken)⟩ (leaveGroup taken) := by
  cases taken with
  | none => exact rest
  | some grant =>
    refine .ask ⟨rfl, fun x => ⟨trivial, ?_⟩⟩
    cases x with
    | ok => exact rest
    | error => exact rest

theorem follows_stopDriver (rest : ends () ⟨h, p, l, c, .tearing (.stopped taken found)⟩) :
    Follows ends ⟨h, p, l, c, .tearing (.ofFound taken found)⟩ (stopDriver found) := by
  cases found with
  | none => exact rest
  | some driver => exact .ask ⟨rfl, fun _ => ⟨trivial, rest⟩⟩

theorem follows_stopStorage (rest : ends () ⟨h, p, l, c, .tearing (.halted taken found)⟩) :
    Follows ends ⟨h, p, l, c, .tearing (.exited taken found)⟩ stopStorage := by
  refine .ask ⟨trivial, fun x => ⟨trivial, ?_⟩⟩
  cases x with
  | ok => exact rest
  | error => exact rest

theorem follows_dismantle
    (rest : ∀ taken found, ends () ⟨h, p, l, c, .tearing (.cleared taken found)⟩) :
    Follows ends ⟨h, p, l, c, .tearing .begun⟩ dismantle := by
  refine .touch fun taken _ => ⟨trivial, .bind (follows_leaveGroup ?_)⟩
  refine .bind (.touch fun _ _ => ⟨trivial, .ensure (.touch fun found _ => ⟨trivial, ?_⟩)⟩)
  refine follows_stopDriver fun _ _ => ⟨trivial, .bind (follows_stopStorage ?_)⟩
  exact .touch fun _ _ => ⟨rfl, rest taken found⟩

theorem follows_tearDown (rest : ∀ d : Death, d.isOver = true → ends () ⟨h, p, l, c, d⟩) :
    Follows ends ⟨h, p, l, c, .dying⟩ tearDown := by
  refine .touch fun won _ => ⟨trivial, ?_⟩
  cases won with
  | false => exact rest .none rfl
  | true =>
    refine .ensure (follows_dismantle fun taken found => ?_)
    exact ⟨trivial, fun _ => ⟨⟨trivial, trivial, trivial, trivial, trivial⟩, rest _ rfl⟩⟩

end Teardown

/-! ## Requests -/

theorem Place.after_notice (r : Place) (n : Notice) : r.after (.called (.notice n)) = r := by
  obtain ⟨h, p, l, c, d⟩ := r
  cases d with
  | tearing stage => cases stage <;> rfl
  | _ => rfl

theorem Place.after_noticed (r : Place) (n : Notice) (x : Option Unit) :
    r.after (.answered (.notice n) x) = r := by
  obtain ⟨h, p, l, c, d⟩ := r
  cases d with
  | tearing stage => cases stage <;> rfl
  | _ => rfl

theorem Place.allows_notice {r : Place} (live : ∀ stage, r.death ≠ .tearing stage) (n : Notice) :
    r.Allows (.called (.notice n)) ∧ r.Allows (.answered (.notice n) (some ())) := by
  obtain ⟨h, p, l, c, d⟩ := r
  cases d with
  | tearing stage => exact (live stage rfl).elim
  | dying => exact ⟨trivial, trivial⟩
  | none | complete =>
    exact ⟨⟨trivial, trivial, trivial, trivial, trivial⟩,
      ⟨trivial, trivial, trivial, trivial, trivial⟩⟩

section Requests

variable {h : Hold} {p : Preparing} {l : Leading} {c : Confirming}

/-- A request is refused, or does the work of the move, and tears the replica down in the end if
it was to die. -/
theorem follows_requestWith {ends : Outcome → Place → Prop} {act : Duty → Program Outcome}
    {target : State} {r : Place} (allows : ∀ x, r.Allows (.accessed (.install target) x))
    (refused : ∀ source, Edge.between? source target = none →
      ends (.error (.illegalMove ⟨source, target⟩))
        (r.after (.accessed (.install target) (.error ⟨source, target⟩))))
    (live : ∀ edge stage, (r.after (.accessed (.install target) (.ok edge))).death ≠ .tearing stage)
    (granted : ∀ edge,
      Follows
        (fun outcome r =>
          if target.isDead then Follows (fun _ r => ends outcome r) r tearDown else ends outcome r)
        (r.after (.accessed (.install target) (.ok edge)))
        (match target.duty with | some duty => act duty | none => pure (.ok ()))) :
    Follows ends r (requestWith act target) := by
  refine .touch fun x hx => ⟨allows x, ?_⟩
  rcases Access.gives_install hx with ⟨source, rfl⟩ | ⟨source, hn, rfl⟩
  · have work := granted ⟨source, target, target.duty⟩
    have notice := Place.allows_notice (live ⟨source, target, target.duty⟩) (.installed target)
    refine .log (.ask ⟨notice.1, fun _ => ?_⟩)
    rw [Place.after_notice, Place.after_noticed]
    refine ⟨notice.2, ?_⟩
    cases target with
    | dead =>
      show Follows ends _ (tearDown >>= fun _ => pure (.ok ()))
      exact .bind work
    | idle | storagePrepared | active => exact work
    | preparingStorage | leaderAwaitingRegistration | registeredLeader => exact .bind work
  · exact refused source hn

theorem follows_requestDead {ends : Outcome → Place → Prop} {act : Duty → Program Outcome}
    (settled : h.isPending = false)
    (rest : ∀ d : Death, d.isOver = true → ends (.ok ()) ⟨h, p.fail, l.fail, c.fail, d⟩) :
    Follows ends ⟨h, p, l, c, .none⟩ (requestWith act .dead) := by
  refine follows_requestWith (fun x => ?_) (fun source none => ?_) (fun _ => nofun) fun edge => ?_
  · exact ⟨.inl settled, trivial, trivial, trivial, rfl⟩
  · simp [Edge.between?_dead] at none
  · have place : Place.after ⟨h, p, l, c, .none⟩ (.accessed (.install .dead) (.ok edge)) =
        ⟨h.settle true, p.fail, l.fail, c.fail, .dying⟩ := rfl
    rw [place, Hold.settle_eq settled]
    exact follows_tearDown rest

theorem follows_kill {ends : Unit → Place → Prop} {reason : String}
    (settled : h.isPending = false)
    (rest : ∀ d : Death, d.isOver = true → ends () ⟨h, p.fail, l.fail, c.fail, d⟩) :
    Follows ends ⟨h, p, l, c, .none⟩ (kill reason) :=
  .log (.bind (follows_requestDead settled rest))

end Requests

/-! ## The works of a move -/

theorem follows_prepareStorage {ends : Outcome → Place → Prop}
    (rest : ∀ outcome (p : Preparing) (d : Death), p.isOver = true → d.isOver = true →
      ends outcome ⟨.none, p, .unbegun, .unbegun, d⟩) :
    Follows ends ⟨.none, .due, .unbegun, .unbegun, .none⟩ prepareStorage := by
  refine .ask ⟨⟨rfl, rfl, trivial, trivial, trivial⟩,
    fun x => ⟨⟨trivial, ⟨rfl, rfl⟩, trivial, trivial, trivial⟩, ?_⟩⟩
  cases x with
  | ok =>
    refine .bind (follows_requestWith (fun _ => ⟨.inl rfl, trivial, trivial, trivial, trivial⟩)
      (fun source _ => ?_) (fun _ => nofun) fun _ => ?_)
    · cases source with
      | dead => exact rest _ _ _ rfl rfl
      | _ => exact rest _ _ _ rfl rfl
    · exact rest _ _ _ rfl rfl
  | error e => exact .log (.bind (follows_kill rfl fun d finished => rest _ _ d rfl finished))

section TakeLead

variable {h : Hold} {id : Option String} {driver : DriverId}

theorem follows_startUnlessDead {ends : Bool → Place → Prop} (settled : h.isPending = false)
    (started : ends true ⟨h, .unbegun, .started id driver, .unbegun, .none⟩)
    (barred : ends false ⟨h, .unbegun, .barred id driver, .unbegun, .none⟩) :
    Follows ends ⟨h, .unbegun, .entered id driver, .unbegun, .none⟩ (startUnlessDead driver) := by
  refine .touch fun x _ => ⟨⟨trivial, trivial, trivial, trivial, trivial⟩, ?_⟩
  cases x with
  | dead => exact barred
  | _ =>
    exact .ask ⟨⟨settled, trivial, ⟨id, rfl⟩, trivial, trivial⟩,
      fun _ => ⟨⟨trivial, trivial, ⟨id, rfl, rfl⟩, trivial, trivial⟩, started⟩⟩

variable {ends : Unit → Place → Prop}

theorem follows_bringUpDriver (settled : h.isPending = false)
    (rest : ∀ l : Leading, l.isOver = true → ends () ⟨h, .unbegun, l, .unbegun, .none⟩) :
    Follows ends ⟨h, .unbegun, .identified id, .unbegun, .none⟩ (bringUpDriver id) := by
  refine .log (.ask ⟨⟨settled, trivial, rfl, trivial, trivial⟩,
    fun driver => ⟨⟨trivial, trivial, ⟨rfl, rfl⟩, trivial, trivial⟩, ?_⟩⟩)
  refine .touch fun _ _ => ⟨⟨trivial, trivial, ⟨id, rfl⟩, trivial, trivial⟩, ?_⟩
  refine .ask ⟨⟨settled, trivial, ⟨id, driver, rfl⟩, trivial, trivial⟩,
    fun _ => ⟨⟨trivial, trivial, trivial, trivial, trivial⟩, ?_⟩⟩
  refine .ask ⟨⟨settled, trivial, ⟨id, driver, rfl⟩, trivial, trivial⟩,
    fun _ => ⟨⟨trivial, trivial, trivial, trivial, trivial⟩, ?_⟩⟩
  refine .bind (.touch fun _ _ => ⟨⟨trivial, trivial, ⟨id, driver, rfl⟩, trivial, trivial⟩,
    .ensure (follows_startUnlessDead settled ?_ ?_)⟩)
  · refine fun _ _ => ⟨⟨trivial, trivial, ⟨id, driver, .inr rfl⟩, trivial, trivial⟩, ?_⟩
    exact .ask ⟨⟨settled, trivial, ⟨id, rfl⟩, trivial, trivial⟩,
      fun _ => ⟨⟨trivial, trivial, trivial, trivial, trivial⟩, rest _ rfl⟩⟩
  · exact fun _ _ => ⟨⟨trivial, trivial, ⟨id, driver, .inl rfl⟩, trivial, trivial⟩, rest _ rfl⟩

theorem follows_takeLead (settled : h.isPending = false)
    (rest : ∀ (l : Leading) (d : Death), l.isOver = true → d.isOver = true →
      ends () ⟨h, .unbegun, l, .unbegun, d⟩) :
    Follows ends ⟨h, .unbegun, .due, .unbegun, .none⟩ takeLead := by
  refine .log (.ask ⟨⟨settled, trivial, rfl, trivial, trivial⟩,
    fun x => ⟨⟨trivial, trivial, ⟨rfl, rfl⟩, trivial, trivial⟩, ?_⟩⟩)
  cases x with
  | error => exact .log (follows_kill settled fun d finished => rest _ d rfl finished)
  | ok =>
    refine .ask ⟨⟨settled, trivial, rfl, trivial, trivial⟩,
      fun x => ⟨⟨trivial, trivial, ⟨rfl, rfl⟩, trivial, trivial⟩, ?_⟩⟩
    cases x with
    | error => exact .log (follows_kill settled fun d finished => rest _ d rfl finished)
    | ok id => exact follows_bringUpDriver settled fun l finished => rest l .none finished rfl

end TakeLead

section ConfirmRegistration

variable {ends : Unit → Place → Prop}

theorem follows_acknowledge {ends : Bool → Place → Prop}
    (yes : ends true ⟨.none, .unbegun, .unbegun, .acknowledged, .none⟩)
    (no : ends false ⟨.none, .unbegun, .unbegun, .ignored, .none⟩) :
    Follows ends ⟨.none, .unbegun, .unbegun, .due, .none⟩ acknowledge := by
  refine .touch fun x _ => ⟨⟨trivial, trivial, trivial, trivial, trivial⟩, ?_⟩
  cases x with
  | dead => exact no
  | _ =>
    refine .touch fun _ _ => ⟨⟨trivial, trivial, trivial, rfl, trivial⟩, ?_⟩
    refine .touch fun x _ => ⟨⟨trivial, trivial, trivial, trivial, trivial⟩, ?_⟩
    cases x with
    | dead => exact .touch fun _ _ => ⟨⟨trivial, trivial, trivial, rfl, trivial⟩, no⟩
    | _ => exact yes

theorem follows_advertise {grant : Grant}
    (rest : ∀ (c : Confirming) (d : Death), c.isOver = true → d.isOver = true →
      ends () ⟨.none, .unbegun, .unbegun, c, d⟩) :
    Follows ends ⟨.none, .unbegun, .unbegun, .holding grant, .none⟩ (advertise grant) := by
  refine .ask ⟨⟨rfl, trivial, trivial, rfl, trivial⟩,
    fun x => ⟨⟨trivial, trivial, trivial, ⟨rfl, rfl⟩, trivial⟩, ?_⟩⟩
  match x with
  | .ok () => exact rest _ _ rfl rfl
  | .error .interrupted => exact .log (follows_kill rfl fun d finished => rest _ d rfl finished)
  | .error (.join _) => exact .log (follows_kill rfl fun d finished => rest _ d rfl finished)
  | .error (.serverSetUpdate _) =>
    exact .log (follows_kill rfl fun d finished => rest _ d rfl finished)

theorem follows_confirmRegistration
    (rest : ∀ (c : Confirming) (d : Death), c.isOver = true → d.isOver = true →
      ends () ⟨.none, .unbegun, .unbegun, c, d⟩) :
    Follows ends ⟨.none, .unbegun, .unbegun, .due, .none⟩ confirmRegistration := by
  refine .bind (follows_acknowledge ?_ (rest _ _ rfl rfl))
  refine .ask ⟨⟨rfl, trivial, trivial, ⟨rfl, rfl⟩, trivial⟩,
    fun _ => ⟨⟨trivial, trivial, trivial, trivial, trivial⟩, ?_⟩⟩
  refine .touch fun held _ => ⟨⟨rfl, trivial, trivial, rfl, trivial⟩, ?_⟩
  cases held with
  | none => exact .log (follows_kill rfl fun d finished => rest _ d rfl finished)
  | some grant => exact follows_advertise rest

end ConfirmRegistration

/-! ## Operations -/

/-- How an operation ends: with nothing left to do, and the grant of a lead taken or refused. -/
def Operation.Ends (operation : Operation) (outcome : Outcome) (r : Place) : Prop :=
  r.AtRest ∧
    r.hold = match operation with
      | lead grant => .closed grant outcome.isOk
      | _ => .none

section Operations

variable {ends : Outcome → Place → Prop}

theorem follows_request {target : State}
    (rest : ∀ outcome (r : Place), r.AtRest → r.hold = .none → ends outcome r) :
    Follows ends {} (request target) := by
  have ended (outcome : Outcome) (p : Preparing) (l : Leading) (c : Confirming) (d : Death)
      (hp : p.isOver = true) (hl : l.isOver = true) (hc : c.isOver = true) (hd : d.isOver = true) :
      ends outcome ⟨.none, p, l, c, d⟩ := rest _ _ ⟨.inl rfl, hp, hl, hc, hd⟩ rfl
  cases target with
  | dead => exact follows_requestDead rfl fun d finished => ended _ _ _ _ d rfl rfl rfl finished
  | idle | storagePrepared | active =>
    exact follows_requestWith (fun _ => ⟨.inl rfl, trivial, trivial, trivial, trivial⟩)
      (fun _ _ => ended _ _ _ _ _ rfl rfl rfl rfl) (fun _ => nofun)
      fun _ => ended _ _ _ _ _ rfl rfl rfl rfl
  | preparingStorage =>
    exact follows_requestWith (fun _ => ⟨.inl rfl, rfl, trivial, trivial, trivial⟩)
      (fun _ _ => ended _ _ _ _ _ rfl rfl rfl rfl) (fun _ => nofun)
      fun _ => follows_prepareStorage fun _ p d hp hd => ended _ p _ _ d hp rfl rfl hd
  | leaderAwaitingRegistration =>
    exact follows_requestWith (fun _ => ⟨.inl rfl, trivial, rfl, trivial, trivial⟩)
      (fun _ _ => ended _ _ _ _ _ rfl rfl rfl rfl) (fun _ => nofun)
      fun _ => .bind (follows_takeLead rfl fun l d hl hd => ended _ _ l _ d rfl hl rfl hd)
  | registeredLeader =>
    exact follows_requestWith (fun _ => ⟨.inl rfl, trivial, trivial, rfl, trivial⟩)
      (fun _ _ => ended _ _ _ _ _ rfl rfl rfl rfl) (fun _ => nofun)
      fun _ => .bind (follows_confirmRegistration fun c d hc hd => ended _ _ _ c d rfl rfl hc hd)

section Lead

variable {grant : Grant} {l : Leading} {d : Death}

theorem follows_releaseIfAny {ends : Unit → Place → Prop} {accepted : Bool}
    {owed : Option Grant} (finished : d.isOver = true)
    (rest : ends () ⟨.closing grant accepted none, .unbegun, l, .unbegun, d⟩) :
    Follows ends ⟨.closing grant accepted owed, .unbegun, l, .unbegun, d⟩ (releaseIfAny owed) := by
  cases owed with
  | none => exact rest
  | some owed =>
    cases d with
    | dying | tearing => cases finished
    | none | complete =>
      refine .ask ⟨⟨⟨grant, accepted, rfl⟩, trivial, trivial, trivial, trivial⟩,
        fun x => ⟨⟨trivial, trivial, trivial, trivial, trivial⟩, ?_⟩⟩
      cases x with
      | ok => exact rest
      | error => exact rest

theorem follows_takeUp {previous : Option Grant}
    (rest : ∀ (outcome : Outcome) (l : Leading) (d : Death), l.isOver = true → d.isOver = true →
      ends outcome ⟨.closing grant outcome.isOk none, .unbegun, l, .unbegun, d⟩) :
    Follows ends ⟨.offered grant previous, .unbegun, .unbegun, .unbegun, .none⟩
      (takeUp grant previous) := by
  refine .bind (follows_requestWith
    (fun _ => ⟨.inr ⟨⟨grant, previous, rfl⟩, rfl⟩, trivial, rfl, trivial, trivial⟩)
    (fun source _ => ?_) (fun _ => nofun) fun _ => ?_)
  · refine .log (.ask ⟨⟨trivial, trivial, trivial, trivial, trivial⟩,
      fun _ => ⟨⟨trivial, trivial, trivial, trivial, trivial⟩, ?_⟩⟩)
    refine .touch fun owed _ => ⟨⟨rfl, trivial, trivial, trivial, trivial⟩, ?_⟩
    exact .bind (follows_releaseIfAny rfl (rest (.error _) _ _ rfl rfl))
  · refine .bind (follows_takeLead rfl fun l d hl hd => ?_)
    have left : Follows (fun _ => ends (.ok ())) ⟨.closing grant true previous, .unbegun, l,
        .unbegun, d⟩ (releaseIfAny previous) :=
      follows_releaseIfAny hd (rest (.ok ()) l d hl hd)
    cases previous with
    | none => exact left
    | some stale =>
      have tail : Follows ends ⟨.closing grant true (some stale), .unbegun, l, .unbegun, d⟩
          (Program.log (Log.warn "replaced a leader control handle that was still held" []) >>=
            fun _ => release stale >>= fun _ => pure (.ok ())) := .log (.bind left)
      exact tail

theorem follows_lead
    (rest : ∀ (outcome : Outcome) (r : Place), r.AtRest → r.hold = .closed grant outcome.isOk →
      ends outcome r) :
    Follows ends {} (lead grant) := by
  refine .touch fun _ _ => ⟨⟨rfl, trivial, trivial, trivial, trivial⟩, .ensure ?_⟩
  refine .touch fun previous _ => ⟨⟨rfl, trivial, trivial, trivial, trivial⟩, ?_⟩
  refine follows_takeUp fun outcome l d hl hd => ?_
  cases d with
  | dying | tearing => cases hd
  | none | complete =>
    exact fun _ _ => ⟨⟨⟨grant, outcome.isOk, rfl⟩, trivial, trivial, trivial, trivial⟩,
      rest _ _ ⟨.inr ⟨grant, outcome.isOk, rfl⟩, rfl, hl, rfl, rfl⟩ rfl⟩

end Lead

end Operations

section Unrefused

variable {ends : Unit → Place → Prop}

theorem follows_killAtOnce {reason : String}
    (rest : ∀ r : Place, r.AtRest → r.hold = .none → ends () r) :
    Follows ends {} (kill reason) :=
  follows_kill rfl fun _ finished => rest _ ⟨.inl rfl, rfl, rfl, rfl, finished⟩ rfl

theorem follows_registrationDue (rest : ∀ r : Place, r.AtRest → r.hold = .none → ends () r) :
    Follows ends {} registrationDue := by
  refine .touch fun x _ => ⟨⟨trivial, trivial, trivial, trivial, trivial⟩, ?_⟩
  cases x with
  | true => exact rest _ ⟨.inl rfl, rfl, rfl, rfl, rfl⟩ rfl
  | false =>
    refine .touch fun x _ => ⟨⟨trivial, trivial, trivial, trivial, trivial⟩, ?_⟩
    cases x with
    | dead => exact rest _ ⟨.inl rfl, rfl, rfl, rfl, rfl⟩ rfl
    | _ => exact .log (follows_killAtOnce rest)

theorem follows_failoverDue (rest : ∀ r : Place, r.AtRest → r.hold = .none → ends () r) :
    Follows ends {} failoverDue := by
  refine .touch fun x _ => ⟨⟨trivial, trivial, trivial, trivial, trivial⟩, ?_⟩
  cases x with
  | dead => exact rest _ ⟨.inl rfl, rfl, rfl, rfl, rfl⟩ rfl
  | _ => exact .log (follows_killAtOnce rest)

theorem follows_callback {timer : Timer}
    (rest : ∀ r : Place, r.AtRest → r.hold = .none → ends () r) :
    Follows ends {} timer.callback := by
  cases timer with
  | registration => exact follows_registrationDue rest
  | failover => exact follows_failoverDue rest
  | join driver =>
    exact .ask ⟨⟨rfl, trivial, trivial, trivial, trivial⟩,
      fun _ => ⟨⟨trivial, trivial, trivial, trivial, trivial⟩, .log (follows_killAtOnce rest)⟩⟩

end Unrefused

/-- Whatever is asked of a replica, at every step only what the places allow is done. -/
theorem Operation.follows (operation : Operation) :
    Follows operation.Ends {} operation.program := by
  cases operation with
  | prepare => exact follows_request fun _ _ atRest held => ⟨atRest, held⟩
  | lead grant => exact follows_lead fun _ _ atRest held => ⟨atRest, held⟩
  | stepDown => exact .bind (.log (follows_killAtOnce fun _ atRest held => ⟨atRest, held⟩))
  | registered => exact .log (follows_request fun _ _ atRest held => ⟨atRest, held⟩)
  | request => exact follows_request fun _ _ atRest held => ⟨atRest, held⟩
  | runOut => exact .bind (follows_callback fun _ atRest held => ⟨atRest, held⟩)

end Lifecycle
end Tenure
