import Tenure.Agenda
import Tenure.Limits
import Tenure.Proofs.Alone

/-!
# What comes of an operation alone

An operation that nobody interrupts goes from one scene to another: it changes the variables, arms
timers on a clock that stands still meanwhile, and may be granted the move to `registeredLeader`.
`Ensues ends p m` says of a program that in scene `m` it does not wait for a lock, and ends as told,
whatever the collaborators answer and whoever of them panics.

An operation leaves a replica that has armed no timer before it leads, and has acknowledged the
registration as long as it is registered.
-/
namespace Tenure.Lifecycle

open Program

/-! ## Alarms -/

/-- What has been put down to happen later. -/
structure Alarms where
  agenda : Agenda Timer := {}
  /-- The drivers that joins wait for. -/
  joins : List DriverId := []
  /-- The timers that were armed so far, each with the time at which it was. -/
  armed : List (Nat × Timer) := []

namespace Alarms

def arm (limits : Limits) (k : Alarms) (timer : Timer) : Alarms :=
  let armed := k.armed ++ [(k.agenda.now, timer)]
  match timer with
  | .registration => { k with armed, agenda := k.agenda.schedule limits.registration.nanos timer }
  | .failover => { k with armed, agenda := k.agenda.schedule limits.leading.nanos timer }
  | .join driver => { k with armed, joins := k.joins ++ [driver] }

/-- Both limits are armed. -/
def armLimits (limits : Limits) (k : Alarms) : Alarms :=
  (k.arm limits .registration).arm limits .failover

/-- What an operation does to the alarms: nothing, or it arms the first ones. -/
inductive Grows (limits : Limits) (k : Alarms) : Alarms → Prop where
  | same : Grows limits k k
  | armed (unarmed : k.armed = []) : Grows limits k (k.armLimits limits)
  | joined (unarmed : k.armed = []) (driver : DriverId) :
      Grows limits k ((k.armLimits limits).arm limits (.join driver))

end Alarms

/-! ## Scenes -/

structure Scene where
  shared : Shared
  alarms : Alarms
  /-- Whether a move to `registeredLeader` was granted. -/
  registered : Bool

namespace Scene

def called (limits : Limits) (m : Scene) : Call → Scene
  | .arm timer => { m with alarms := m.alarms.arm limits timer }
  | _ => m

/-- The scene after an access that leaves the variables so. -/
def accessed (m : Scene) : (a : Access) → a.Answer → Shared → Scene
  | .install .registeredLeader, .ok _, shared => { m with shared, registered := true }
  | _, _, shared => { m with shared }

end Scene

/-- Any call may panic but those that `Call.mayPanic` excepts, and those that arm a timer. -/
def Call.mayBreak : Call → Bool
  | arm _ => false
  | c => c.mayPanic

variable {α β : Type}

def Ensues (limits : Limits) (ends : Option α → Scene → Prop) : Program α → Scene → Prop
  | .done a, m => ends (some a) m
  | .unwind, m => ends none m
  | .access a next, m =>
    ∃ x s, a.apply m.shared = some (x, s) ∧ Ensues limits ends (next x) (m.accessed a x s)
  | .note _ next, m => Ensues limits ends next m
  | .call c next, m =>
    ∀ x, x.isSome = true ∨ c.mayBreak = true → Ensues limits ends (next x) (m.called limits c)

namespace Ensues

variable {limits : Limits} {ends : Option α → Scene → Prop} {m : Scene}

/-! ## Rules -/

theorem mono {ends' : Option α → Scene → Prop} {p : Program α} (h : Ensues limits ends p m)
    (weaker : ∀ x m, ends x m → ends' x m) : Ensues limits ends' p m := by
  induction p generalizing m with
  | done | unwind => exact weaker _ _ h
  | access a next ih =>
    obtain ⟨x, s, apply, h⟩ := h
    exact ⟨x, s, apply, ih x h⟩
  | note entry next ih => exact ih h
  | call c next ih => exact fun x hx => ih x (h x hx)

/-- A panic skips what was to follow. -/
theorem bind {ends : Option β → Scene → Prop} {p : Program α} {f : α → Program β}
    (h : Ensues limits
      (fun x m => match x with | some a => Ensues limits ends (f a) m | none => ends none m) p m) :
    Ensues limits ends (p >>= f) m := by
  rw [Program.bind_eq]
  induction p generalizing m with
  | done | unwind => exact h
  | access a next ih =>
    obtain ⟨x, s, apply, h⟩ := h
    exact ⟨x, s, apply, ih x h⟩
  | note entry next ih => exact ih h
  | call c next ih => exact fun x hx => ih x (h x hx)

/-- What is put aside for a panic is not skipped. -/
theorem ensure {p : Program α} {last : Program Unit}
    (h : Ensues limits
      (fun x m => Ensues limits (fun y m => ends (y.bind fun _ => x) m) last m) p m) :
    Ensues limits ends (p.ensure last) m := by
  induction p generalizing m with
  | done | unwind =>
    refine bind (mono h fun y m h => ?_)
    cases y <;> exact h
  | access a next ih =>
    obtain ⟨x, s, apply, h⟩ := h
    exact ⟨x, s, apply, ih x h⟩
  | note entry next ih => exact ih h
  | call c next ih => exact fun x hx => ih x (h x hx)

theorem log {entry : Log.Entry} {f : Unit → Program α} (h : Ensues limits ends (f ()) m) :
    Ensues limits ends (Program.log entry >>= f) m := h

theorem touch {a : Access} {f : a.Answer → Program α} {x : a.Answer} {s : Shared}
    (apply : a.apply m.shared = some (x, s))
    (h : Ensues limits ends (f x) (m.accessed a x s)) :
    Ensues limits ends (Program.touch a >>= f) m := ⟨x, s, apply, h⟩

theorem ask {c : Call} {f : c.Answer → Program α}
    (panicked : c.mayBreak = true → ends none (m.called limits c))
    (answered : ∀ x, Ensues limits ends (f x) (m.called limits c)) :
    Ensues limits ends (Program.ask c >>= f) m := fun x may => by
  cases x with
  | some x => exact answered x
  | none => exact panicked (may.resolve_left nofun)

theorem askLast {c : Call} {ends : Option c.Answer → Scene → Prop}
    (panicked : c.mayBreak = true → ends none (m.called limits c))
    (answered : ∀ x, ends (some x) (m.called limits c)) :
    Ensues limits ends (Program.ask c) m := by
  rw [← Program.bind_done (Program.ask c)]
  exact ask panicked answered

/-- A lock that is free can be had. -/
theorem withLock {l : Lock} {body : Program α} (free : m.shared.isHeld l = false)
    (h : Ensues limits (fun x m => ends x { m with shared := m.shared.setHeld false l }) body
      { m with shared := m.shared.setHeld true l }) :
    Ensues limits ends (Program.withLock l body) m := by
  exact touch (Access.apply_lock free) (ensure (h.mono fun x m ended => ⟨(), _, rfl, ended⟩))

end Ensues

/-! ## Dying -/

section Dying

variable {limits : Limits} {m : Scene}

/-- A replica has died, and otherwise nothing has changed that matters. -/
structure Scene.Fallen (m m' : Scene) : Prop where
  dead : m'.shared.state = .dead
  grants : m'.shared.grantsHeld = m.shared.grantsHeld
  driver : m'.shared.driverHeld = false
  acknowledged : m'.shared.acknowledged = true → m.shared.acknowledged = true
  alarms : m'.alarms = m.alarms
  registered : m'.registered = m.registered

/-- Whether the replica was torn down before does not matter. -/
theorem Scene.Fallen.claimed {m' : Scene} {tornDown : Bool} {state : State}
    (h : Fallen { m with shared := { m.shared with tornDown, state } } m') : m.Fallen m' :=
  ⟨h.dead, h.grants, h.driver, h.acknowledged, h.alarms, h.registered⟩

theorem ensues_leaveGroup {ends : Option Unit → Scene → Prop} (h : ∀ x, ends x m)
    (taken : Option Grant) : Ensues limits ends (leaveGroup taken) m := by
  cases taken with
  | none => exact h _
  | some grant => exact .ask (fun _ => h _) fun x => by cases x <;> exact h _

theorem ensues_stopDriver {ends : Option Unit → Scene → Prop} (h : ∀ x, ends x m)
    (found : Option DriverId) : Ensues limits ends (stopDriver found) m := by
  cases found with
  | none => exact h _
  | some driver => exact .ask (fun _ => h _) fun _ => h _

theorem ensues_stopStorage {ends : Option Unit → Scene → Prop} (h : ∀ x, ends x m) :
    Ensues limits ends stopStorage m :=
  .ask (fun _ => h _) fun x => by cases x <;> exact h _

theorem ensues_dismantle (dead : m.shared.state = .dead) (free : m.shared.driverHeld = false) :
    Ensues limits (fun _ m' => m.Fallen m') dismantle m := by
  refine .touch rfl (.bind (ensues_leaveGroup (fun x => ?_) _))
  cases x with
  | none => exact ⟨dead, rfl, free, id, rfl, rfl⟩
  | some =>
    refine .bind (.withLock free (.touch rfl (ensues_stopDriver (fun x => ?_) _)))
    cases x with
    | none => exact ⟨dead, rfl, rfl, id, rfl, rfl⟩
    | some =>
      refine .bind (ensues_stopStorage fun x => ?_)
      cases x with
      | none => exact ⟨dead, rfl, rfl, id, rfl, rfl⟩
      | some => exact .touch rfl ⟨dead, rfl, rfl, nofun, rfl, rfl⟩

theorem ensues_tearDown (dead : m.shared.state = .dead) (free : m.shared.driverHeld = false) :
    Ensues limits (fun _ m' => m.Fallen m') tearDown m := by
  refine .touch rfl ?_
  cases m.shared.tornDown with
  | true => exact ⟨dead, rfl, free, id, rfl, rfl⟩
  | false =>
    let m₁ : Scene := { m with shared := { m.shared with tornDown := true } }
    have dismantled : Ensues limits (fun _ m' => m₁.Fallen m') dismantle m₁ :=
      ensues_dismantle dead free
    exact .ensure (dismantled.mono fun x m' fallen => .askLast nofun fun _ => fallen.claimed)

/-- A request to die is never refused. -/
theorem ensues_requestDead {act : Duty → Program Outcome} (free : m.shared.driverHeld = false) :
    Ensues limits (fun _ m' => m.Fallen m') (requestWith act .dead) m := by
  have apply : (Access.install .dead).apply m.shared =
      some (.ok ⟨m.shared.state, .dead, none⟩, { m.shared with state := .dead }) := by
    simp [Access.apply, Shared.install, State.move_dead]
  refine .touch apply (.log (.ask (fun breaks => by cases breaks) fun _ => ?_))
  let m₁ : Scene := { m with shared := { m.shared with state := .dead } }
  have torn : Ensues limits (fun _ m' => m₁.Fallen m') tearDown m₁ := ensues_tearDown rfl free
  show Ensues limits _ (tearDown >>= fun _ => (pure (.ok ()) : Program Outcome)) _
  refine .bind (torn.mono fun x m' fallen => ?_)
  have fallen : m.Fallen m' := fallen.claimed
  cases x <;> exact fallen

theorem ensues_kill (reason : String) (free : m.shared.driverHeld = false) :
    Ensues limits (fun _ m' => m.Fallen m') (kill reason) m := by
  refine .log (.bind ((ensues_requestDead free).mono fun x m' fallen => ?_))
  match x with
  | none | some (.ok ()) | some (.error _) => exact fallen

end Dying

/-! ## Moves -/

/-- A scene in which no operation is under way but, perhaps, one that takes up a grant. -/
structure Scene.Settled (held : Bool) (m : Scene) : Prop where
  grants : m.shared.grantsHeld = held
  driver : m.shared.driverHeld = false
  /-- Only a registration that was granted is acknowledged. -/
  granted : m.shared.acknowledged = true → m.registered = true
  late : m.registered = true → State.registeredLeader.rank ≤ m.shared.state.rank
  /-- As long as it lives, what is registered is acknowledged. -/
  acknowledged : State.registeredLeader.rank ≤ m.shared.state.rank → m.shared.state ≠ .dead →
    m.shared.acknowledged = true
  unarmed : m.shared.state.rank < State.leaderAwaitingRegistration.rank → m.alarms.armed = []

/-- What comes of an operation in a scene. -/
structure Scene.Leads (limits : Limits) (held : Bool) (m m' : Scene) : Prop where
  settled : m'.Settled held
  alarms : m.alarms.Grows limits m'.alarms

section Moves

variable {limits : Limits} {held : Bool} {m m' : Scene}

theorem Scene.Settled.stays (h : m.Settled held) : m.Leads limits held m := ⟨h, .same⟩

theorem Scene.Fallen.settled (h : m.Fallen m') (grants : m.shared.grantsHeld = held)
    (granted : m.shared.acknowledged = true → m.registered = true) : m'.Settled held where
  grants := h.grants.trans grants
  driver := h.driver
  granted := fun set => h.registered ▸ granted (h.acknowledged set)
  late := fun _ => by rw [h.dead]; decide
  acknowledged := fun _ live => (live h.dead).elim
  unarmed := fun early => by rw [h.dead] at early; exact absurd early (by decide)

theorem Scene.Fallen.leads (h : m.Fallen m') (grants : m.shared.grantsHeld = held)
    (granted : m.shared.acknowledged = true → m.registered = true) : m.Leads limits held m' :=
  ⟨h.settled grants granted, h.alarms ▸ .same⟩

/-- A request of a state other than `dead` is refused, or its work is done. -/
theorem ensues_requestWith {act : Duty → Program Outcome} {target : State}
    {ends : Option Outcome → Scene → Prop} (live : target ≠ .dead) (refused : ∀ x, ends x m)
    (granted : ∀ edge, Edge.between? m.shared.state target = some edge →
      Ensues limits ends (match target.duty with | some duty => act duty | none => pure (.ok ()))
        (m.accessed (.install target) (.ok edge) { m.shared with state := target })) :
    Ensues limits ends (requestWith act target) m := by
  have apply : (Access.install target).apply m.shared = some (m.shared.install target) := rfl
  rw [Shared.install, State.move] at apply
  cases between : Edge.between? m.shared.state target with
  | none =>
    rw [between] at apply
    refine .touch apply ?_
    cases target <;> exact refused _
  | some edge =>
    rw [between] at apply
    have work := granted edge between
    refine .touch apply (.log (.ask (fun breaks => by cases breaks) fun _ => ?_))
    rw [Edge.eq_of_between? between] at work ⊢
    cases target with
    | dead => exact (live rfl).elim
    | idle | storagePrepared | active => exact work
    | preparingStorage | leaderAwaitingRegistration | registeredLeader =>
      exact .bind (work.mono fun x m' ended => by cases x <;> exact ended)

/-! ## The works of a move -/

/-- A scene in which a work that has just begun cannot have broken anything. -/
theorem Scene.Settled.of_early (grants : m.shared.grantsHeld = held)
    (driver : m.shared.driverHeld = false)
    (granted : m.shared.acknowledged = true → m.registered = true)
    (late : m.registered = true → State.registeredLeader.rank ≤ m.shared.state.rank)
    (early : m.shared.state.rank < State.registeredLeader.rank)
    (unarmed : m.alarms.armed = []) : m.Settled held where
  grants := grants
  driver := driver
  granted := granted
  late := late
  acknowledged := fun rank _ => absurd rank (Nat.not_le.mpr early)
  unarmed := fun _ => unarmed

theorem ensues_prepareStorage (settled : m.Settled held)
    (state : m.shared.state = .preparingStorage) :
    Ensues limits (fun _ m' => m.Leads limits held m') prepareStorage m := by
  refine .ask (fun _ => settled.stays) fun x => ?_
  cases x with
  | error =>
    refine .log (.bind ((ensues_kill _ settled.driver).mono fun x m' fallen => ?_))
    cases x <;> exact fallen.leads settled.grants settled.granted
  | ok =>
    have moved : Ensues limits (fun _ m' => m.Leads limits held m')
        (requestPlain .storagePrepared) m := by
      refine ensues_requestWith (by decide) (fun _ => settled.stays) fun edge between => ?_
      refine ⟨.of_early settled.grants settled.driver settled.granted (fun registered => ?_)
        (by simp [Scene.accessed, State.rank]) (settled.unarmed (by rw [state]; decide)), .same⟩
      have late := settled.late registered
      rw [state] at late
      exact absurd late (by decide)
    refine .bind (moved.mono fun x m' leads => ?_)
    cases x with
    | none => exact leads
    | some outcome =>
      cases outcome with
      | ok => exact leads
      | error e => dsimp only; split <;> exact leads

theorem ensues_startUnlessDead {ends : Option Bool → Scene → Prop} (h : ∀ x, ends x m)
    (driver : DriverId) : Ensues limits ends (startUnlessDead driver) m := by
  refine .touch rfl ?_
  cases m.shared.state with
  | dead => exact h _
  | _ => exact .ask (fun _ => h _) fun _ => h _

theorem ensues_bringUpDriver (settled : m.Settled held) (unarmed : m.alarms.armed = [])
    (state : m.shared.state = .leaderAwaitingRegistration) (id : Option String) :
    Ensues limits (fun _ m' => m.Leads limits held m') (bringUpDriver id) m := by
  refine .log (.ask (fun _ => settled.stays) fun driver => .touch rfl ?_)
  refine .ask nofun fun _ => .ask nofun fun _ => ?_
  have leads {k : Alarms} (grows : m.alarms.Grows limits k) (shared : Shared)
      (same : shared = { m.shared with driver := some driver, driverHeld := false }) :
      m.Leads limits held ⟨shared, k, m.registered⟩ := by
    subst same
    refine ⟨⟨settled.grants, rfl, settled.granted, settled.late, settled.acknowledged, ?_⟩, grows⟩
    intro early
    rw [show ({ m.shared with driver := some driver, driverHeld := false } : Shared).state = _
      from state] at early
    exact absurd early (by decide)
  refine .bind (.withLock settled.driver (ensues_startUnlessDead (fun x => ?_) driver))
  match x with
  | none => exact leads (.armed unarmed) _ rfl
  | some false => exact leads (.armed unarmed) _ rfl
  | some true => exact .askLast nofun fun _ => leads (.joined unarmed driver) _ rfl

theorem ensues_takeLead (settled : m.Settled held) (unarmed : m.alarms.armed = [])
    (state : m.shared.state = .leaderAwaitingRegistration) :
    Ensues limits (fun _ m' => m.Leads limits held m') takeLead m := by
  have fell (reason : String) :
      Ensues limits (fun _ m' => m.Leads limits held m') (kill reason) m :=
    (ensues_kill reason settled.driver).mono fun _ _ fallen =>
      fallen.leads settled.grants settled.granted
  refine .log (.ask (fun _ => settled.stays) fun x => ?_)
  cases x with
  | error => exact .log (fell _)
  | ok =>
    refine .ask (fun _ => settled.stays) fun x => ?_
    cases x with
    | error => exact .log (fell _)
    | ok id => exact ensues_bringUpDriver settled unarmed state id

theorem ensues_advertise {ends : Option Unit → Scene → Prop} (h : ∀ x, ends x m)
    (fell : ∀ reason, Ensues limits ends (kill reason) m) (grant : Grant) :
    Ensues limits ends (advertise grant) m := by
  refine .ask (fun _ => h _) fun x => ?_
  match x with
  | .ok () => exact h _
  | .error .interrupted => exact .log (fell _)
  | .error (.join _) => exact .log (fell _)
  | .error (.serverSetUpdate _) => exact .log (fell _)

/-- The variables of a replica that was granted the move to `registeredLeader`. -/
def Scene.confirming (held acknowledged tornDown : Bool) (slot : Option Grant)
    (driver : Option DriverId) (k : Alarms) : Scene where
  shared := ⟨.registeredLeader, acknowledged, tornDown, slot, driver, held, false⟩
  alarms := k
  registered := true

theorem Scene.settled_confirming (tornDown : Bool) (slot : Option Grant)
    (driver : Option DriverId) (k : Alarms) :
    (confirming held true tornDown slot driver k).Settled held :=
  ⟨rfl, rfl, fun _ => rfl, fun _ => Nat.le_refl _, fun _ _ => rfl,
    fun early => absurd (show 4 < 3 from early) (by decide)⟩

/-- Before anybody is asked, the registration is acknowledged. -/
theorem ensues_confirmRegistration (acknowledged tornDown : Bool) (slot : Option Grant)
    (driver : Option DriverId) (k : Alarms) :
    Ensues limits (fun _ m' => m'.Settled held ∧ k.Grows limits m'.alarms) confirmRegistration
      (.confirming held acknowledged tornDown slot driver k) := by
  have settled : (Scene.confirming held true tornDown slot driver k).Settled held :=
    Scene.settled_confirming ..
  have fell (reason : String) : Ensues limits
      (fun _ m' => m'.Settled held ∧ k.Grows limits m'.alarms) (kill reason)
      (.confirming held true tornDown slot driver k) := by
    refine (ensues_kill reason rfl).mono fun _ m' fallen => ?_
    have leads : Scene.Leads limits held _ m' := fallen.leads rfl fun _ => rfl
    exact ⟨leads.settled, leads.alarms⟩
  have acknowledges : Ensues limits
      (fun x m' => x = some true ∧ m' = .confirming held true tornDown slot driver k) acknowledge
      (.confirming held acknowledged tornDown slot driver k) :=
    .touch rfl (.touch rfl (.touch rfl ⟨rfl, rfl⟩))
  refine .bind (acknowledges.mono ?_)
  rintro _ _ ⟨rfl, rfl⟩
  refine .ask (fun _ => ⟨settled, .same⟩) fun _ => .touch rfl ?_
  cases slot with
  | none => exact .log (fell _)
  | some grant => exact ensues_advertise (fun _ => ⟨settled, .same⟩) fell grant

/-! ## Operations -/

/-- A replica that moves on to a state in which it is not registered yet. -/
theorem Scene.Settled.moves (settled : m.Settled held) {target : State}
    (next : target.rank = m.shared.state.rank + 1)
    (early : target.rank < State.registeredLeader.rank) :
    Scene.Settled held { m with shared := { m.shared with state := target } } where
  grants := settled.grants
  driver := settled.driver
  granted := settled.granted
  late := fun registered => by
    have late := settled.late registered
    omega
  acknowledged := fun rank _ => absurd rank (Nat.not_le.mpr early)
  unarmed := fun _ => settled.unarmed (by
    have : target.rank < 4 := early
    show m.shared.state.rank < 3
    omega)

theorem ensues_request (settled : m.Settled held) (target : State) :
    Ensues limits (fun _ m' => m.Leads limits held m') (request target) m := by
  by_cases dead : target = .dead
  · subst dead
    exact (ensues_requestDead settled.driver).mono fun _ _ fallen =>
      fallen.leads settled.grants settled.granted
  refine ensues_requestWith dead (fun _ => settled.stays) fun edge between => ?_
  have next : target.rank = m.shared.state.rank + 1 :=
    (Edge.rank_of_between? (by rw [between]; rfl)).resolve_left dead
  have unarmed (early : m.shared.state.rank < 3) : m.alarms.armed = [] := settled.unarmed early
  cases target with
  | dead => exact (dead rfl).elim
  | idle => cases next
  | storagePrepared => exact ⟨settled.moves next (by decide), .same⟩
  | preparingStorage =>
    exact (ensues_prepareStorage (settled.moves next (by decide)) rfl).mono fun _ _ leads =>
      ⟨leads.settled, leads.alarms⟩
  | leaderAwaitingRegistration =>
    have early : m.shared.state.rank < 3 := Nat.lt_of_succ_le (Nat.le_of_eq next.symm)
    refine .bind ((ensues_takeLead (settled.moves next (by decide)) (unarmed early) rfl).mono ?_)
    rintro x m' ⟨settled, alarms⟩
    cases x <;> exact ⟨settled, alarms⟩
  | registeredLeader =>
    obtain ⟨⟨s, acknowledged, tornDown, slot, driver, held', driverHeld⟩, k, registered⟩ := m
    obtain ⟨rfl, rfl, -, -, -, -⟩ := settled
    refine .bind ((ensues_confirmRegistration acknowledged tornDown slot driver k).mono ?_)
    rintro x m' ⟨settled, alarms⟩
    cases x <;> exact ⟨settled, alarms⟩
  | active =>
    have source : m.shared.state = .registeredLeader :=
      State.eq_of_rank_eq (Nat.succ.inj next).symm
    have acknowledged : m.shared.acknowledged = true :=
      settled.acknowledged (source ▸ Nat.le_refl _) (by rw [source]; decide)
    exact ⟨⟨settled.grants, settled.driver, settled.granted, fun _ => (by decide : 4 ≤ 5),
      fun _ _ => acknowledged, fun early => absurd (show 5 < 3 from early) (by decide)⟩, .same⟩

theorem ensues_release {ends : Option Unit → Scene → Prop} (h : ∀ x, ends x m) (grant : Grant) :
    Ensues limits ends (release grant) m :=
  .ask (fun _ => h _) fun x => by cases x <;> exact h _

/-- What is in the slot does not matter. -/
theorem Scene.Leads.slot (h : m.Leads limits held m') (slot : Option Grant) :
    m.Leads limits held { m' with shared := { m'.shared with slot } } where
  settled := ⟨h.settled.grants, h.settled.driver, h.settled.granted, h.settled.late,
    h.settled.acknowledged, h.settled.unarmed⟩
  alarms := h.alarms

theorem ensues_takeUp (settled : m.Settled held) (grant : Grant) (previous : Option Grant) :
    Ensues limits (fun _ m' => m.Leads limits held m') (takeUp grant previous) m := by
  refine .bind ((ensues_request settled .leaderAwaitingRegistration).mono fun x m' leads => ?_)
  match x with
  | none => exact leads
  | some (.ok ()) =>
    cases previous with
    | none => exact leads
    | some stale =>
      refine .log (.bind (ensues_release (fun x => ?_) stale))
      cases x <;> exact leads
  | some (.error e) =>
    have withdraw : ∃ slot owed, (Access.withdraw grant previous).apply m'.shared =
        some (owed, { m'.shared with slot }) := by
      by_cases own : m'.shared.slot = some grant
      · exact ⟨previous, some grant, by simp [Access.apply, Shared.withdraw, own]⟩
      · exact ⟨m'.shared.slot, previous, by simp [Access.apply, Shared.withdraw, own]⟩
    obtain ⟨slot, owed, apply⟩ := withdraw
    refine .log (.ask (fun breaks => by cases breaks) fun _ => .touch apply ?_)
    have leads : m.Leads limits held _ := leads.slot slot
    cases owed with
    | none => exact leads
    | some owed =>
      refine .bind (ensues_release (fun x => ?_) owed)
      cases x <;> exact leads

/-- Whether somebody asks for the operation; timers and joins run out by themselves. -/
def Operation.isAsked : Operation → Bool
  | runOut _ => false
  | _ => true

theorem ensues_lead (settled : m.Settled false) (grant : Grant) :
    Ensues limits (fun _ m' => m.Leads limits false m') (lead grant) m := by
  refine .withLock settled.grants (.touch rfl ?_)
  let m₁ : Scene :=
    { m with shared := { m.shared with grantsHeld := true, slot := some grant } }
  have begun : m₁.Settled true :=
    ⟨rfl, settled.driver, settled.granted, settled.late, settled.acknowledged, settled.unarmed⟩
  have takes : Ensues limits (fun _ m' => m₁.Leads limits true m')
      (takeUp grant m.shared.slot) m₁ := ensues_takeUp begun grant m.shared.slot
  refine takes.mono fun _ m' ⟨settled, alarms⟩ => ⟨⟨rfl, settled.driver, settled.granted,
    settled.late, settled.acknowledged, settled.unarmed⟩, alarms⟩

/-- Whatever is asked of a replica, its scene is settled again after it. -/
theorem ensues_operation (settled : m.Settled false) {operation : Operation}
    (asked : operation.isAsked = true) :
    Ensues limits (fun _ m' => m.Leads limits false m') operation.program m := by
  cases operation with
  | prepare => exact ensues_request settled _
  | lead grant => exact ensues_lead settled grant
  | registered => exact .log (ensues_request settled _)
  | request target => exact ensues_request settled target
  | runOut => cases asked
  | stepDown =>
    refine .bind (.log ((ensues_kill _ settled.driver).mono fun x m' fallen => ?_))
    cases x <;> exact fallen.leads settled.grants settled.granted

/-! ## What happens when time is up -/

/-- What comes of a timer that runs out. -/
structure Scene.Rings (timer : Timer) (m m' : Scene) : Prop where
  settled : m'.Settled false
  alarms : m'.alarms = m.alarms
  ends : timer = .failover → m'.shared.state = .dead
  dead_or : timer = .registration → m'.shared.state = .dead ∨ m.registered = true
  spares : timer = .registration → m.registered = true → m'.shared.state = m.shared.state

/-- A callback that kills has found a replica that is not registered, or is not about that. -/
theorem Scene.Fallen.rings (fallen : m.Fallen m') (settled : m.Settled false) {timer : Timer}
    (unregistered : timer = .registration → m.registered = true → m.shared.state = .dead) :
    Scene.Rings timer m m' where
  settled := fallen.settled settled.grants settled.granted
  alarms := fallen.alarms
  ends := fun _ => fallen.dead
  dead_or := fun _ => .inl fallen.dead
  spares := fun is registered => fallen.dead.trans (unregistered is registered).symm

theorem ensues_killUnlessDead {ends : Option Unit → Scene → Prop} {entry : Log.Entry}
    {reason : String} (free : m.shared.driverHeld = false)
    (dead : m.shared.state = .dead → ends (some ()) m)
    (fell : m.shared.state ≠ .dead → ∀ x m', m.Fallen m' → ends x m') :
    Ensues limits ends (do
      if (← touch .readState).isDead then pure () else
        Program.log entry
        kill reason) m := by
  refine .touch rfl ?_
  cases state : m.shared.state with
  | dead => exact dead state
  | _ => exact .log ((ensues_kill reason free).mono (fell (by simp [state])))

theorem ensues_callback (settled : m.Settled false) (timer : Timer) :
    Ensues limits (fun _ m' => Scene.Rings timer m m') timer.callback m := by
  have stays (dead : m.shared.state = .dead) : Scene.Rings timer m m :=
    ⟨settled, rfl, fun _ => dead, fun _ => .inl dead, fun _ _ => rfl⟩
  cases timer with
  | registration =>
    refine .touch rfl ?_
    cases acknowledged : m.shared.acknowledged with
    | true =>
      exact ⟨settled, rfl, nofun, fun _ => .inr (settled.granted acknowledged), fun _ _ => rfl⟩
    | false =>
      refine ensues_killUnlessDead settled.driver stays fun live _ m' fallen => ?_
      refine Scene.Fallen.rings fallen settled fun _ registered => ?_
      cases (settled.acknowledged (settled.late registered) live).symm.trans acknowledged
  | failover =>
    exact ensues_killUnlessDead settled.driver stays fun _ _ _ fallen => fallen.rings settled nofun
  | join driver =>
    refine .ask (fun _ => ⟨settled, rfl, nofun, nofun, nofun⟩) fun _ => .log ?_
    exact (ensues_kill _ settled.driver).mono fun _ _ fallen => fallen.rings settled nofun

end Moves

end Tenure.Lifecycle
