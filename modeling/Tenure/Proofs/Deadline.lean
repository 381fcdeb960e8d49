import Mathlib.Data.List.Perm.Basic
import Tenure.Proofs.Aftermath

/-!
# Two limits on leadership

The timers of a replica run by a clock. What is armed at one time falls due after its limit, at that
very time; its callback then runs to its end. The clock does not go past a callback that is due.
In between anything may be asked of the replica, and its driver may exit.

A replica does not outlive the limit on leading. At the limit on registration it dies, unless it was
granted the move to `registeredLeader` before.
-/
namespace Tenure.Lifecycle

variable {σ α : Type}

/-! ## A crew with timers -/

structure Timed (σ : Type) where
  crew : σ
  alarms : Alarms := {}

/-- The timers are put down; all else is for the crew. -/
def Crew.timed (limits : Limits) (serve : Crew σ) : Crew (Timed σ)
  | .arm timer, t => (some (), { t with alarms := t.alarms.arm limits timer })
  | c, t => ((serve c t.crew).1, { t with crew := (serve c t.crew).2 })

/-- Whether an act is the grant of the move to `registeredLeader`. -/
def Act.registers : Act → Bool
  | accessed (.install .registeredLeader) (.ok _) => true
  | _ => false

namespace Alone

variable {limits : Limits} {serve : Crew σ} {w : Alone (Timed σ)}

/-- Whether the move to `registeredLeader` has been granted. -/
def isRegistered (w : Alone (Timed σ)) : Bool := w.acts.any Act.registers

def scene (w : Alone (Timed σ)) : Scene where
  shared := w.shared
  alarms := w.crew.alarms
  registered := w.isRegistered

theorem scene_accessed {a : Access} (x : a.Answer) (s : Shared) :
    scene { w with shared := s, acts := w.acts ++ [.accessed a x] } = w.scene.accessed a x s := by
  cases a with
  | install target =>
    cases target <;> cases x <;> simp [scene, Scene.accessed, isRegistered, Act.registers]
  | _ => simp [scene, Scene.accessed, isRegistered, Act.registers]

theorem scene_called (c : Call) (x : Option c.Answer) :
    scene { w with
      crew := (serve.timed limits c w.crew).2
      acts := w.acts ++ [.called c, .answered c x] } = w.scene.called limits c := by
  cases c <;> simp [scene, Scene.called, isRegistered, Act.registers, Crew.timed]

/-- What ensues is what a run comes to. -/
theorem run_of_ensues {ends : Option α → Scene → Prop} {p : Program α} (careful : serve.Careful)
    (h : Ensues limits ends p w.scene) :
    ∃ x w', run (serve.timed limits) p w = some (x, w') ∧ ends x w'.scene := by
  induction p generalizing w with
  | done a => exact ⟨some a, w, rfl, h⟩
  | unwind => exact ⟨none, w, rfl, h⟩
  | note entry next ih => exact ih h
  | access a next ih =>
    obtain ⟨x, s, apply, h⟩ := h
    rw [run_access apply]
    exact ih x (scene_accessed x s ▸ h)
  | call c next ih =>
    rw [run_call]
    refine ih _ ?_
    rw [scene_called]
    refine h _ ?_
    cases c with
    | arm => exact .inl rfl
    | _ => exact careful _ w.crew.crew

end Alone

/-! ## A replica on a clock -/

/-- A callback that has run: when it did, and the replica before and after it. -/
structure Ring (σ : Type) where
  time : Nat
  timer : Timer
  before : Alone (Timed σ)
  after : Alone (Timed σ)

structure Clocked (σ : Type) where
  replica : Alone (Timed σ)
  /-- The callbacks that have run, in order. -/
  rung : List (Ring σ) := []

inductive Happening where
  | operate (operation : Operation)
  /-- The clock moves on. -/
  | pass (span : Nat)
  /-- Of what is put down on the agenda, the one with this number runs, if it is due. -/
  | ring (k : Nat)
  /-- The driver that this join waits for exits. -/
  | exit (k : Nat)
  deriving DecidableEq

namespace Clocked

def alarms (q : Clocked σ) : Alarms := q.replica.crew.alarms

def now (q : Clocked σ) : Nat := q.alarms.agenda.now

def state (q : Clocked σ) : State := q.replica.shared.state

/-- A replica that nothing has happened to. -/
def fresh (crew : σ) : Clocked σ := ⟨⟨{}, ⟨crew, {}⟩, []⟩, []⟩

variable (limits : Limits) (serve : Crew σ)

/-- Runs a callback that is taken off the alarms. -/
def callback (q : Clocked σ) (timer : Timer) (alarms : Alarms) : Option (Clocked σ) :=
  let before := { q.replica with crew := { q.replica.crew with alarms } }
  (Alone.run (serve.timed limits) timer.callback before).map fun (_, after) =>
    ⟨after, q.rung ++ [⟨q.now, timer, before, after⟩]⟩

def step? (q : Clocked σ) : Happening → Option (Clocked σ)
  | .operate operation =>
    if operation.isAsked then
      (Alone.run (serve.timed limits) operation.program q.replica).map fun (_, replica) =>
        { q with replica }
    else none
  | .pass span =>
    if q.alarms.agenda.entries.all fun entry => q.now + span ≤ entry.1 then
      let agenda := { q.alarms.agenda with now := q.now + span }
      let alarms := { q.alarms with agenda }
      some { q with replica := { q.replica with crew := { q.replica.crew with alarms } } }
    else none
  | .ring k =>
    q.alarms.agenda.entries[k]?.bind fun (due, timer) =>
      if due = q.now then
        let agenda := { q.alarms.agenda with entries := q.alarms.agenda.entries.eraseIdx k }
        q.callback limits serve timer { q.alarms with agenda }
      else none
  | .exit k =>
    q.alarms.joins[k]?.bind fun driver =>
      q.callback limits serve (.join driver) { q.alarms with joins := q.alarms.joins.eraseIdx k }

def follow? (q : Clocked σ) : List Happening → Option (Clocked σ)
  | [] => some q
  | happening :: rest => (q.step? limits serve happening).bind fun q => q.follow? rest

end Clocked

/-! ## What is due and what has run -/

namespace Alarms

/-- When an armed timer falls due, if that is a matter of the clock. -/
def due? (limits : Limits) : Nat × Timer → Option (Nat × Timer)
  | (t, .registration) => some (t + limits.registration.nanos, .registration)
  | (t, .failover) => some (t + limits.leading.nanos, .failover)
  | (_, .join _) => none

end Alarms

/-- The driver that a join waits for. -/
def Timer.driver? : Timer → Option DriverId
  | join driver => some driver
  | _ => none

/-- The alarms that have run, each at its time. -/
def rang (rung : List (Nat × Timer)) : List (Nat × Timer) :=
  rung.filter fun entry => entry.2.driver? = none

/-- The drivers whose joins have come to an end. -/
def joined (rung : List (Nat × Timer)) : List DriverId := rung.filterMap (·.2.driver?)

namespace Alarms

variable {limits : Limits} {rung : List (Nat × Timer)} {k k' : Alarms}

/-- What was armed is still to run, or has run. The two limits are armed together, once. -/
structure Tracks (limits : Limits) (rung : List (Nat × Timer)) (k : Alarms) : Prop where
  punctual : ∀ alarm ∈ k.agenda.entries, k.agenda.now ≤ alarm.1
  alarms : (k.agenda.entries ++ rang rung).Perm (k.armed.filterMap (due? limits))
  joins : (k.joins ++ joined rung).Perm (k.armed.filterMap (·.2.driver?))
  armed : k.armed = [] ∨ ∃ t, k.armed = [(t, .registration), (t, .failover)] ∨
    ∃ driver, k.armed = [(t, .registration), (t, .failover), (t, .join driver)]

theorem tracks_nil : Tracks limits [] {} where
  punctual _ h := by cases h
  alarms := .nil
  joins := .nil
  armed := .inl rfl

theorem perm_put {β : Type} {l r s : List β} (x : β) (h : (l ++ r).Perm s) :
    ((l ++ [x]) ++ r).Perm (s ++ [x]) := by
  have moved : ((l ++ [x]) ++ r).Perm ((l ++ r) ++ [x]) := by
    rw [List.append_assoc, List.append_assoc]
    exact List.perm_append_comm.append_left l
  exact moved.trans (h.append_right [x])

/-- What is taken off one list is put at the end of another. -/
theorem perm_moved {β : Type} {l r : List β} {n : Nat} {x : β} (at_n : l[n]? = some x) :
    (l.eraseIdx n ++ (r ++ [x])).Perm (l ++ r) := by
  obtain ⟨inside, rfl⟩ := List.getElem?_eq_some_iff.mp at_n
  have moved : (l.eraseIdx n ++ (r ++ [l[n]])).Perm (l[n] :: l.eraseIdx n ++ r) := by
    rw [← List.append_assoc]
    exact List.perm_append_singleton _ _
  exact moved.trans ((List.getElem_cons_eraseIdx_perm inside).append_right r)

/-- To arm the limits keeps track of them. -/
theorem Tracks.armLimits (h : k.Tracks limits rung) (unarmed : k.armed = []) :
    (k.armLimits limits).Tracks limits rung where
  punctual alarm mem := by
    simp only [Alarms.armLimits, arm, Agenda.schedule, List.append_assoc, List.mem_append,
      List.mem_cons, List.not_mem_nil, or_false] at mem
    rcases mem with mem | rfl | rfl
    · exact h.punctual alarm mem
    · exact Nat.le_add_right _ _
    · exact Nat.le_add_right _ _
  alarms := by
    have put := perm_put (k.agenda.now + limits.leading.nanos, Timer.failover)
      (perm_put (k.agenda.now + limits.registration.nanos, Timer.registration) h.alarms)
    simpa [Alarms.armLimits, arm, due?, Agenda.schedule] using put
  joins := by simpa [Alarms.armLimits, arm, Timer.driver?] using h.joins
  armed := .inr ⟨k.agenda.now, .inl (by simp [Alarms.armLimits, arm, unarmed, Agenda.schedule])⟩

theorem Tracks.grows (h : k.Tracks limits rung) (grows : k.Grows limits k') :
    k'.Tracks limits rung := by
  cases grows with
  | same => exact h
  | armed unarmed => exact h.armLimits unarmed
  | joined unarmed driver =>
    have limited := h.armLimits unarmed
    refine ⟨limited.punctual, ?_, ?_, .inr ⟨k.agenda.now, .inr ⟨driver, ?_⟩⟩⟩
    · show List.Perm _ (((k.armLimits limits).armed ++ [_]).filterMap (due? limits))
      rw [List.filterMap_append]
      exact (List.append_nil _).symm ▸ limited.alarms
    · simpa [arm, Timer.driver?] using perm_put driver limited.joins
    · simp [Alarms.armLimits, arm, unarmed, Agenda.schedule]

theorem Tracks.pass (h : k.Tracks limits rung) {now : Nat}
    (waits : ∀ alarm ∈ k.agenda.entries, now ≤ alarm.1) :
    Tracks limits rung { k with agenda := { k.agenda with now } } :=
  ⟨waits, h.alarms, h.joins, h.armed⟩

/-- What is on the agenda is no join. -/
theorem Tracks.driver?_eq_none (h : k.Tracks limits rung) {alarm : Nat × Timer}
    (mem : alarm ∈ k.agenda.entries) : alarm.2.driver? = none := by
  have armed := h.alarms.subset (List.mem_append_left _ mem)
  obtain ⟨⟨t, timer⟩, -, due⟩ := List.mem_filterMap.mp armed
  cases timer <;> cases due <;> rfl

theorem Tracks.ring (h : k.Tracks limits rung) {n : Nat} {alarm : Nat × Timer}
    (at_n : k.agenda.entries[n]? = some alarm) :
    Tracks limits (rung ++ [alarm])
      { k with agenda := { k.agenda with entries := k.agenda.entries.eraseIdx n } } := by
  have free := h.driver?_eq_none (List.mem_of_getElem? at_n)
  refine ⟨fun entry mem => h.punctual entry (List.mem_of_mem_eraseIdx mem), ?_, ?_, h.armed⟩
  · have rings : rang (rung ++ [alarm]) = rang rung ++ [alarm] := by simp [rang, free]
    rw [rings]
    exact (perm_moved at_n).trans h.alarms
  · have same : joined (rung ++ [alarm]) = joined rung := by simp [joined, free]
    rw [same]
    exact h.joins

theorem Tracks.exit (h : k.Tracks limits rung) {n : Nat} {driver : DriverId}
    (at_n : k.joins[n]? = some driver) :
    Tracks limits (rung ++ [(k.agenda.now, .join driver)])
      { k with joins := k.joins.eraseIdx n } := by
  refine ⟨h.punctual, ?_, ?_, h.armed⟩
  · have same : rang (rung ++ [(k.agenda.now, .join driver)]) = rang rung := by
      simp [rang, Timer.driver?]
    rw [same]
    exact h.alarms
  · have joins : joined (rung ++ [(k.agenda.now, .join driver)]) = joined rung ++ [driver] := by
      simp [joined, Timer.driver?]
    rw [joins]
    exact (perm_moved at_n).trans h.joins

end Alarms

namespace Clocked

/-- The timers that have run out, each with the time at which its callback ran. -/
def ranOut (q : Clocked σ) : List (Nat × Timer) := q.rung.map fun ring => (ring.time, ring.timer)

variable {limits : Limits} {serve : Crew σ} {q q' : Clocked σ}

structure Kept (limits : Limits) (q : Clocked σ) : Prop where
  settled : q.replica.scene.Settled false
  tracks : q.alarms.Tracks limits q.ranOut
  rings : ∀ ring ∈ q.rung, Scene.Rings ring.timer ring.before.scene ring.after.scene ∧
    ring.after.shared.state.rank ≤ q.state.rank

theorem kept_fresh (crew : σ) : (fresh crew).Kept limits where
  settled :=
    { grants := rfl
      driver := rfl
      granted := fun set => Bool.noConfusion (set : false = true)
      late := fun granted => Bool.noConfusion (granted : false = true)
      acknowledged := fun late => absurd (show 4 ≤ 0 from late) (by decide)
      unarmed := fun _ => rfl }
  tracks := Alarms.tracks_nil
  rings _ h := by cases h

/-- What has been armed stays armed when a callback is taken off. -/
theorem settled_of_armed {m : Scene} (h : m.Settled false) {k : Alarms}
    (same : k.armed = m.alarms.armed) : Scene.Settled false { m with alarms := k } :=
  ⟨h.grants, h.driver, h.granted, h.late, h.acknowledged, fun early => same.trans (h.unarmed early)⟩

theorem Kept.callback (h : q.Kept limits) (careful : serve.Careful) {timer : Timer} {k : Alarms}
    (same : k.armed = q.alarms.armed)
    (tracks : k.Tracks limits (q.ranOut ++ [(q.now, timer)]))
    (step : q.callback limits serve timer k = some q') : q'.Kept limits := by
  simp only [Clocked.callback, Option.map_eq_some_iff, Prod.exists] at step
  obtain ⟨x, after, run, rfl⟩ := step
  let before : Alone (Timed σ) := { q.replica with crew := { q.replica.crew with alarms := k } }
  have settled : before.scene.Settled false := settled_of_armed h.settled same
  obtain ⟨y, w, run', rings⟩ := Alone.run_of_ensues careful (ensues_callback settled timer)
  cases run.symm.trans run'
  have ranOut : ranOut ⟨after, q.rung ++ [⟨q.now, timer, before, after⟩]⟩ =
      q.ranOut ++ [(q.now, timer)] := List.map_append
  refine ⟨rings.settled, ?_, fun ring mem => ?_⟩
  · show after.scene.alarms.Tracks limits _
    rw [rings.alarms, ranOut]
    exact tracks
  · rcases List.mem_append.mp mem with mem | mem
    · obtain ⟨rings, rank⟩ := h.rings ring mem
      exact ⟨rings, Nat.le_trans rank (Alone.run_grows run).2⟩
    · obtain rfl := List.mem_singleton.mp mem
      exact ⟨rings, Nat.le_refl _⟩

theorem Kept.step (h : q.Kept limits) (careful : serve.Careful) {happening : Happening}
    (step : q.step? limits serve happening = some q') : q'.Kept limits := by
  cases happening with
  | operate operation =>
    simp only [step?] at step
    split at step
    · next asked =>
      obtain ⟨⟨x, replica⟩, run, rfl⟩ := Option.map_eq_some_iff.mp step
      obtain ⟨y, w, run', leads⟩ := Alone.run_of_ensues careful (ensues_operation h.settled asked)
      cases run.symm.trans run'
      refine ⟨leads.settled, h.tracks.grows leads.alarms, fun ring mem => ?_⟩
      obtain ⟨rings, rank⟩ := h.rings ring mem
      exact ⟨rings, Nat.le_trans rank (Alone.run_grows run).2⟩
    · cases step
  | pass span =>
    simp only [step?] at step
    split at step
    · next waits =>
      cases step
      have waits : ∀ alarm ∈ q.alarms.agenda.entries, q.now + span ≤ alarm.1 := by
        simpa using waits
      exact ⟨settled_of_armed h.settled rfl, h.tracks.pass waits, h.rings⟩
    · cases step
  | ring n =>
    obtain ⟨⟨due, timer⟩, at_n, step⟩ := Option.bind_eq_some_iff.mp step
    dsimp only at step
    split at step
    · next eq =>
      subst eq
      have tracks := h.tracks.ring at_n
      exact h.callback careful (by rfl) tracks step
    · cases step
  | exit n =>
    obtain ⟨driver, at_n, step⟩ := Option.bind_eq_some_iff.mp step
    have tracks := h.tracks.exit at_n
    exact h.callback careful (by rfl) tracks step

theorem Kept.follow {happenings : List Happening} (h : q.Kept limits) (careful : serve.Careful)
    (follow : q.follow? limits serve happenings = some q') : q'.Kept limits := by
  induction happenings generalizing q with
  | nil => cases follow; exact h
  | cons happening rest ih =>
    obtain ⟨q₁, step, follow⟩ := Option.bind_eq_some_iff.mp follow
    exact ih (h.step careful step) follow

/-! ## Nothing waits for ever -/

/-- Whatever is asked of a replica comes to its end. -/
theorem Kept.operates (h : q.Kept limits) (careful : serve.Careful) {operation : Operation}
    (asked : operation.isAsked = true) :
    ∃ q', q.step? limits serve (.operate operation) = some q' := by
  have ensues : Ensues limits _ operation.program q.replica.scene :=
    ensues_operation h.settled asked
  obtain ⟨x, w, run, -⟩ := Alone.run_of_ensues careful ensues
  exact ⟨{ q with replica := w }, by simp [step?, asked, run]⟩

theorem Kept.calls_back (h : q.Kept limits) (careful : serve.Careful) (timer : Timer) {k : Alarms}
    (same : k.armed = q.alarms.armed) : ∃ q', q.callback limits serve timer k = some q' := by
  let before : Alone (Timed σ) := { q.replica with crew := { q.replica.crew with alarms := k } }
  have settled : before.scene.Settled false := settled_of_armed h.settled same
  obtain ⟨x, w, run, -⟩ := Alone.run_of_ensues careful (ensues_callback settled timer)
  exact ⟨_, congrArg (Option.map _) run⟩

/-- A callback that is due runs to its end. -/
theorem Kept.rings_when_due (h : q.Kept limits) (careful : serve.Careful) {n : Nat} {timer : Timer}
    (due : q.alarms.agenda.entries[n]? = some (q.now, timer)) :
    ∃ q', q.step? limits serve (.ring n) = some q' := by
  obtain ⟨q', back⟩ := h.calls_back careful timer (k := { q.alarms with
    agenda := { q.alarms.agenda with entries := q.alarms.agenda.entries.eraseIdx n } }) rfl
  exact ⟨q', by simpa [step?, due] using back⟩

/-! ## The limits -/

/-- What a replica that armed its limits at time `t` keeps to. -/
structure Limited (limits : Limits) (serve : Crew σ) (t : Nat) (q : Clocked σ) : Prop where
  /-- The two callbacks run once each, at their times: until then they are pending. -/
  once : (q.alarms.agenda.entries ++ rang q.ranOut).Perm
    [(t + limits.registration.nanos, .registration), (t + limits.leading.nanos, .failover)]
  /-- No callback is late. -/
  punctual : ∀ alarm ∈ q.alarms.agenda.entries, q.now ≤ alarm.1
  /-- Whatever is asked comes to its end. -/
  operates : ∀ operation : Operation, operation.isAsked = true →
    ∃ q', q.step? limits serve (.operate operation) = some q'
  /-- A callback whose time has come runs to its end. -/
  runs : ∀ n timer, q.alarms.agenda.entries[n]? = some (q.now, timer) →
    ∃ q', q.step? limits serve (.ring n) = some q'
  /-- There is one join at most, and it comes to an end once at most. -/
  joins : (q.alarms.joins ++ joined q.ranOut).length ≤ 1
  /-- After the callback for the limit on leading, the replica is dead. -/
  ends : (t + limits.leading.nanos, .failover) ∈ q.ranOut → q.state = .dead
  /-- After the callback for the limit on registration, the replica is dead, or it had been granted
  the registration before. -/
  registers : (t + limits.registration.nanos, .registration) ∈ q.ranOut → q.state = .dead ∨
    ∃ ring ∈ q.rung, ring.timer = .registration ∧ ring.before.isRegistered = true
  /-- If it had been granted before, no callback of the clock changes the state before the limit on
  leading. -/
  spares : (∀ ring ∈ q.rung, ring.timer = .registration → ring.before.isRegistered = true) →
    ∀ ring ∈ q.rung, ring.timer.driver? = none → ring.time < t + limits.leading.nanos →
      ring.after.shared.state = ring.before.shared.state

/-- What was dead after a callback is dead. -/
theorem Kept.dead_of_ring (h : q.Kept limits) {ring : Ring σ} (mem : ring ∈ q.rung)
    (dead : ring.after.shared.state = .dead) : q.state = .dead := by
  have rank := (h.rings ring mem).2
  rw [dead] at rank
  exact State.eq_dead_of_rank_le rank

theorem exists_ring {time : Nat} {timer : Timer} (ran : (time, timer) ∈ q.ranOut) :
    ∃ ring ∈ q.rung, ring.timer = timer := by
  obtain ⟨ring, mem, eq⟩ := List.mem_map.mp ran
  exact ⟨ring, mem, congrArg Prod.snd eq⟩

/-- A replica on a clock that has armed its limits keeps to them, whatever happens to it, whatever
its crew answers and whoever of the crew panics. -/
theorem leads_within_limits {crew : σ} (careful : serve.Careful) {happenings : List Happening}
    (run : (fresh crew).follow? limits serve happenings = some q) {t : Nat} {timer : Timer}
    (armed : (t, timer) ∈ q.alarms.armed) : q.Limited limits serve t := by
  have kept : q.Kept limits := (kept_fresh crew).follow careful run
  obtain ⟨punctual, alarms, joins, shape⟩ := kept.tracks
  have once : (q.alarms.agenda.entries ++ rang q.ranOut).Perm
      [(t + limits.registration.nanos, .registration), (t + limits.leading.nanos, .failover)] ∧
      (q.alarms.joins ++ joined q.ranOut).length ≤ 1 := by
    rw [joins.length_eq]
    rcases shape with none | ⟨t', two | ⟨driver, three⟩⟩
    · rw [none] at armed
      cases armed
    · rw [two] at armed alarms ⊢
      obtain rfl : t = t' := by simp at armed; tauto
      exact ⟨alarms, Nat.zero_le _⟩
    · rw [three] at armed alarms ⊢
      obtain rfl : t = t' := by simp at armed; tauto
      exact ⟨alarms, Nat.le_refl _⟩
  refine ⟨once.1, punctual, fun _ => kept.operates careful,
    fun _ _ => kept.rings_when_due careful, once.2, fun ran => ?_, fun ran => ?_,
    fun before ring mem free early => ?_⟩
  · obtain ⟨ring, mem, timer⟩ := exists_ring ran
    exact kept.dead_of_ring mem ((kept.rings ring mem).1.ends timer)
  · obtain ⟨ring, mem, timer⟩ := exists_ring ran
    rcases (kept.rings ring mem).1.dead_or timer with dead | registered
    · exact .inl (kept.dead_of_ring mem dead)
    · exact .inr ⟨ring, mem, timer, registered⟩
  · cases timer : ring.timer with
    | registration => exact (kept.rings ring mem).1.spares timer (before ring mem timer)
    | join driver => rw [timer] at free; cases free
    | failover =>
      have rings : (ring.time, ring.timer) ∈ rang q.ranOut :=
        List.mem_filter.mpr ⟨List.mem_map_of_mem mem, by simp [free]⟩
      have due := once.1.subset (List.mem_append_right _ rings)
      rw [timer] at due
      have : ring.time = t + limits.leading.nanos := by simpa using due
      omega

/-- A crew that always obliges. -/
def willing : Crew Unit
  | .prepareStorage, _ | .repairStorage, _ | .stopStorage, _ => (some (.ok ()), ())
  | .advertise _, _ | .leave _, _ => (some (.ok ()), ())
  | .readFrameworkId, _ => (some (.ok none), ())
  | .createDriver _, _ => (some ⟨0⟩, ())
  | .startDriver _, _ | .joinDriver _, _ | .stopDriver _, _ => (some .running, ())
  | .arm _, _ | .post _, _ | .shutdown, _ | .notice _, _ => (some (), ())

theorem willing_careful : willing.Careful := fun c _ => by cases c <;> exact .inl rfl

namespace Happening

/-- A replica leads and is registered before the first limit; it ends at the second. -/
def registeredInTime : List Happening :=
  [.operate .prepare, .pass 1, .operate (.lead ⟨"a"⟩), .pass 1, .operate (.registered "f"),
    .pass 1, .ring 0, .operate (.request .active), .pass 3, .ring 0, .pass 1]

/-- A replica leads and is moved on to `registeredLeader` by a request before the first limit. -/
def movedInTime : List Happening :=
  [.operate .prepare, .operate (.lead ⟨"a"⟩), .operate (.request .registeredLeader), .pass 2,
    .ring 0]

end Happening

/-- The callback at time 3 spares a replica that is registered; the one at time 6 ends it. -/
theorem leads_within_limits_of_registered :
    ∃ q, (fresh ()).follow? ⟨⟨2⟩, ⟨5⟩⟩ willing Happening.registeredInTime = some q ∧
      q.ranOut = [(3, .registration), (6, .failover)] ∧
        q.rung.map (·.after.shared.state) = [.registeredLeader, .dead] ∧
          q.Limited ⟨⟨2⟩, ⟨5⟩⟩ willing 1 := by
  let look (q : Clocked Unit) :=
    (q.ranOut, q.rung.map (·.after.shared.state), q.alarms.armed)
  have seen : ((fresh ()).follow? ⟨⟨2⟩, ⟨5⟩⟩ willing Happening.registeredInTime).map look =
      some ([(3, .registration), (6, .failover)], [.registeredLeader, .dead],
        [(1, .registration), (1, .failover), (1, .join ⟨0⟩)]) := by
    decide +kernel
  obtain ⟨q, run, seen⟩ := Option.map_eq_some_iff.mp seen
  simp only [look, Prod.mk.injEq] at seen
  obtain ⟨ranOut, states, armed⟩ := seen
  have led : (1, .registration) ∈ q.alarms.armed := armed ▸ List.mem_cons_self
  exact ⟨q, run, ranOut, states, leads_within_limits willing_careful run led⟩

/-- The state may be requested as such: a replica whose registration nobody has confirmed then
outlives the limit on registration. -/
theorem outlives_limit_if_moved :
    ¬ ∀ (limits : Limits) (happenings : List Happening) (q : Clocked Unit) (t : Nat),
      (fresh ()).follow? limits willing happenings = some q →
        (t, .registration) ∈ q.alarms.armed →
          (t + limits.registration.nanos, .registration) ∈ q.ranOut → q.state = .dead ∨
            ∃ frameworkId, .operate (.registered frameworkId) ∈ happenings := by
  intro claim
  let look (q : Clocked Unit) := (q.state, q.ranOut, q.alarms.armed)
  have seen : ((fresh ()).follow? ⟨⟨2⟩, ⟨5⟩⟩ willing Happening.movedInTime).map look =
      some (.registeredLeader, [(2, .registration)],
        [(0, .registration), (0, .failover), (0, .join ⟨0⟩)]) := by
    decide +kernel
  obtain ⟨q, run, seen⟩ := Option.map_eq_some_iff.mp seen
  simp only [look, Prod.mk.injEq] at seen
  obtain ⟨state, ranOut, armed⟩ := seen
  have outcome := claim _ _ q 0 run (by rw [armed]; exact List.mem_cons_self)
    (by rw [ranOut]; exact List.mem_cons_self)
  rw [state] at outcome
  simp [Happening.movedInTime] at outcome

end Clocked

end Tenure.Lifecycle
