import Tenure.Proofs.Begun
import Tenure.Proofs.Follows
import Tenure.Proofs.Lifetime

/-!
# A replica comes up

One task at a time leads a replica up to `leaderAwaitingRegistration`, and tasks beside it confirm
the registration and go on from there. A rung says what a task knows of the variables while the
others go on. `Climbs ends r p` says that a task at the rung `r` with the program `p` left to it
asks its collaborators for no more than its rung allows, leaves alone what the others know, and ends
as told, as long as the variables fit the rung whenever it looks at them and the collaborators
answer as they should.

No task that climbs asks for death.
-/
namespace Tenure.Lifecycle

open Program

/-! ## Rungs -/

/-- Somebody leads with a grant, and the replica lives. -/
structure Shared.Led (s : Shared) (grant : Grant) : Prop where
  live : s.state ≠ .dead
  begun : State.leaderAwaitingRegistration.rank ≤ s.state.rank
  slot : s.slot = some grant

/-- What a task that confirms or activates may change of what others know. -/
structure Shared.Beside (s s' : Shared) : Prop where
  slot : s'.slot = s.slot
  driver : s'.driver = s.driver
  state : s'.state = s.state ∨
    s'.state ≠ .dead ∧ State.leaderAwaitingRegistration.rank ≤ s.state.rank ∧
      State.leaderAwaitingRegistration.rank ≤ s'.state.rank

/-- How far up a task is. -/
inductive Rung where
  /-- It does not lead. -/
  | aside
  /-- It does not lead, and has registered the replica that leads with this grant. -/
  | confirming (grant : Grant)
  | idle
  | preparing
  /-- The storage is ready. -/
  | ready
  | prepared
  /-- It has a grant, and has not offered it yet. -/
  | elected (grant : Grant)
  | offered (grant : Grant)
  | leading (grant : Grant)
  /-- It has a driver. -/
  | manned (grant : Grant) (driver : DriverId)
  | published (grant : Grant) (driver : DriverId)
  | driving (grant : Grant) (driver : DriverId)

namespace Rung

variable {r r' : Rung} {s s' : Shared} {grant : Grant}

def isAside : Rung → Bool
  | aside | confirming _ => true
  | _ => false

/-- What a task at a rung knows of the variables. -/
def Fits (s : Shared) : Rung → Prop
  | aside =>
    s.state ≠ .dead ∧
      (State.leaderAwaitingRegistration.rank ≤ s.state.rank → ∃ grant, s.slot = some grant)
  | confirming grant => s.Led grant ∧ State.registeredLeader.rank ≤ s.state.rank
  | idle => s.state = .idle ∧ s.slot = none
  | preparing | ready => s.state = .preparingStorage ∧ s.slot = none
  | prepared | elected _ => s.state = .storagePrepared ∧ s.slot = none
  | offered grant => s.state = .storagePrepared ∧ s.slot = some grant
  | leading grant | manned grant _ => s.Led grant
  | published grant driver | driving grant driver => s.Led grant ∧ s.driver = some driver

/-- What a task at a rung may ask for. -/
def Asks : Rung → Call → Prop
  | _, .notice _ => True
  | preparing, .prepareStorage => True
  | leading _, .repairStorage | leading _, .readFrameworkId | leading _, .createDriver _ => True
  | published _ _, .arm _ | driving _ _, .arm _ => True
  | published _ driver, .startDriver driver' => driver' = driver
  | confirming _, .post event => event = .schedulerActive
  | confirming grant, .advertise grant' => grant' = grant
  | _, _ => False

/-- The rung after an answer. -/
def hear : Rung → (c : Call) → c.Answer → Rung
  | preparing, .prepareStorage, _ => ready
  | leading grant, .createDriver _, driver => manned grant driver
  | published grant driver, .startDriver _, _ => driving grant driver
  | r, _, _ => r

/-- The next rung of a task that goes on by itself. -/
inductive Next : Rung → Rung → Prop where
  | stay (r : Rung) : Next r r
  | register (grant : Grant) : Next aside (confirming grant)
  | begin : Next idle preparing
  | prepare : Next ready prepared
  | offer (grant : Grant) : Next (elected grant) (offered grant)
  | lead (grant : Grant) : Next (offered grant) (leading grant)
  | publish (grant : Grant) (driver : DriverId) :
      Next (manned grant driver) (published grant driver)

/-- A task changes the variables and goes on to a rung that they fit. -/
structure Steps (r : Rung) (s : Shared) (r' : Rung) (s' : Shared) : Prop where
  next : r.Next r'
  fits : r'.Fits s'
  beside : r.isAside = true → s.Beside s'

end Rung

/-- How a collaborator of a scheduler that comes up answers. -/
def Call.Fair : (c : Call) → c.Answer → Prop
  | prepareStorage, x => x = .ok ()
  | repairStorage, x => x = .ok ()
  | readFrameworkId, x => ∃ id, x = .ok id
  | advertise _, x => x = .ok ()
  | _, _ => True

/-! ## What others leave alone -/

theorem Shared.Beside.refl (s : Shared) : s.Beside s := ⟨rfl, rfl, .inl rfl⟩

theorem Shared.Led.unique {s : Shared} {grant grant' : Grant} (h : s.Led grant)
    (h' : s.Led grant') : grant = grant' := Option.some.inj (h.slot.symm.trans h'.slot)

theorem Shared.Led.beside {s s' : Shared} {grant : Grant} (h : s.Led grant) (beside : s.Beside s') :
    s'.Led grant := by
  refine ⟨?_, ?_, beside.slot.trans h.slot⟩
  · rcases beside.state with same | ⟨live, -⟩
    · exact same ▸ h.live
    · exact live
  · rcases beside.state with same | ⟨-, -, begun⟩
    · exact same ▸ h.begun
    · exact begun

namespace Rung

variable {r r' : Rung} {s s' : Shared} {grant : Grant}

/-- The grant of a task that leads, or is about to. -/
def grant? : Rung → Option Grant
  | elected grant | offered grant | leading grant => some grant
  | manned grant _ | published grant _ | driving grant _ => some grant
  | _ => none

/-- Whoever leads knows no more of the state than those who do not. -/
theorem Fits.live (h : r.Fits s) : aside.Fits s := by
  have early (state : s.state.rank < State.leaderAwaitingRegistration.rank) : Fits s .aside :=
    ⟨by rintro dead; rw [dead] at state; exact absurd state (by decide),
      fun begun => absurd begun (Nat.not_le.mpr state)⟩
  cases r with
  | aside => exact h
  | idle | preparing | ready | prepared | elected | offered => exact early (by rw [h.1]; decide)
  | leading grant | manned grant => exact ⟨h.live, fun _ => ⟨grant, h.slot⟩⟩
  | confirming grant | published grant | driving grant =>
    exact ⟨h.1.live, fun _ => ⟨grant, h.1.slot⟩⟩

theorem Fits.of_beside (h : r.Fits s) (beside : s.Beside s')
    (rank : s.state.rank ≤ s'.state.rank) : r.Fits s' := by
  have early (state : s.state.rank < State.leaderAwaitingRegistration.rank) :
      s'.state = s.state :=
    beside.state.resolve_right fun moved => absurd moved.2.1 (Nat.not_le.mpr state)
  cases r with
  | aside =>
    refine ⟨?_, fun begun => ?_⟩
    · rcases beside.state with same | ⟨live, -⟩
      · exact same ▸ h.1
      · exact live
    · rw [beside.slot]
      rcases beside.state with same | ⟨-, before, -⟩
      · exact h.2 (same ▸ begun)
      · exact h.2 before
  | idle | preparing | ready | prepared | elected | offered =>
    exact ⟨(early (by rw [h.1]; decide)).trans h.1, beside.slot.trans h.2⟩
  | leading | manned => exact h.beside beside
  | published | driving => exact ⟨h.1.beside beside, beside.driver.trans h.2⟩
  | confirming => exact ⟨h.1.beside beside, Nat.le_trans h.2 rank⟩

/-- Where somebody leads, whoever came up is the one. -/
theorem Fits.grant?_eq (h : r.Fits s) (main : r.isAside = false) (led : s.Led grant) :
    r.grant? = some grant := by
  have begun := led.begun
  cases r with
  | aside | confirming => cases main
  | idle | preparing | ready | prepared | elected | offered =>
    rw [h.1] at begun
    exact absurd begun (by decide)
  | leading | manned => rw [grant?, h.unique led]
  | published | driving => rw [grant?, h.1.unique led]

/-- What a task does leaves leadership as it is. -/
theorem Steps.led (h : r.Steps s r' s') (fits : r.Fits s) (led : s.Led grant) : s'.Led grant := by
  cases aside : r.isAside with
  | true => exact led.beside (h.beside aside)
  | false =>
    have same := fits.grant?_eq aside led
    have fits' := h.fits
    have begun := led.begun
    cases h.next with
    | register => cases aside
    | begin | prepare | offer | lead =>
      rw [fits.1] at begun
      exact absurd begun (by decide)
    | publish => exact Option.some.inj same ▸ fits'.1
    | stay =>
      cases r with
      | aside | confirming => cases aside
      | idle | preparing | ready | prepared | elected | offered =>
        rw [fits.1] at begun
        exact absurd begun (by decide)
      | leading | manned => exact Option.some.inj same ▸ fits'
      | published | driving => exact Option.some.inj same ▸ fits'.1

/-- An answer changes no variable. -/
theorem Fits.hear (h : r.Fits s) {c : Call} (x : c.Answer) : (r.hear c x).Fits s := by
  fun_cases Rung.hear r c x <;> exact h

theorem isAside_hear (r : Rung) {c : Call} (x : c.Answer) : (r.hear c x).isAside = r.isAside := by
  fun_cases Rung.hear r c x <;> rfl

theorem grant?_hear (r : Rung) {c : Call} (x : c.Answer) : (r.hear c x).grant? = r.grant? := by
  fun_cases Rung.hear r c x <;> rfl

theorem Next.isAside (h : r.Next r') : r'.isAside = r.isAside := by cases h <;> rfl

theorem Next.grant? (h : r.Next r') : r'.grant? = r.grant? := by cases h <;> rfl

end Rung

/-! ## Programs that climb -/

variable {α β : Type}

def Climbs (ends : α → Rung → Prop) : Rung → Program α → Prop
  | r, .done a => ends a r
  | _, .unwind => False
  | r, .access a next =>
    ∀ s x s', r.Fits s → a.apply s = some (x, s') → ∃ r', r.Steps s r' s' ∧ Climbs ends r' (next x)
  | r, .note _ next => Climbs ends r next
  | r, .call c next => r.Asks c ∧ ∀ x, c.Fair x → Climbs ends (r.hear c x) (next (some x))

/-- Whether an access leaves alone what tasks know. -/
def Access.isPlain : Access → Bool
  | readState | readSlot | setAcknowledged _ | lock _ | unlock _ => true
  | _ => false

theorem Access.beside_of_isPlain {a : Access} (plain : a.isPlain = true) {s s' : Shared}
    {x : a.Answer} (apply : a.apply s = some (x, s')) :
    s.Beside s' ∧ s'.state = s.state := by
  cases a with
  | lock l =>
    simp only [Access.apply] at apply
    split at apply <;> cases apply
    cases l <;> exact ⟨⟨rfl, rfl, .inl rfl⟩, rfl⟩
  | unlock l =>
    cases apply
    cases l <;> exact ⟨⟨rfl, rfl, .inl rfl⟩, rfl⟩
  | readState | readSlot | setAcknowledged =>
    cases apply
    exact ⟨⟨rfl, rfl, .inl rfl⟩, rfl⟩
  | _ => cases plain

namespace Climbs

variable {ends : α → Rung → Prop} {r r' : Rung}

/-! ## Rules -/

theorem mono {ends' : α → Rung → Prop} {p : Program α} (h : Climbs ends r p)
    (weaker : ∀ a r, ends a r → ends' a r) : Climbs ends' r p := by
  induction p generalizing r with
  | done => exact weaker _ _ h
  | unwind => exact h
  | access a next ih =>
    intro s x s' fits apply
    obtain ⟨r', steps, h⟩ := h s x s' fits apply
    exact ⟨r', steps, ih x h⟩
  | note entry next ih => exact ih h
  | call c next ih => exact ⟨h.1, fun x fair => ih _ (h.2 x fair)⟩

theorem bind {ends : β → Rung → Prop} {p : Program α} {f : α → Program β}
    (h : Climbs (fun a r => Climbs ends r (f a)) r p) : Climbs ends r (p >>= f) := by
  rw [Program.bind_eq]
  induction p generalizing r with
  | done a => exact h
  | unwind => exact h.elim
  | access a next ih =>
    intro s x s' fits apply
    obtain ⟨r', steps, h⟩ := h s x s' fits apply
    exact ⟨r', steps, ih x h⟩
  | note entry next ih => exact ih h
  | call c next ih => exact ⟨h.1, fun x fair => ih _ (h.2 x fair)⟩

theorem ensure {p : Program α} {last : Program Unit}
    (h : Climbs (fun a r => Climbs (fun _ r => ends a r) r last) r p) :
    Climbs ends r (p.ensure last) := by
  induction p generalizing r with
  | done a => exact bind h
  | unwind => exact h.elim
  | access a next ih =>
    intro s x s' fits apply
    obtain ⟨r', steps, h⟩ := h s x s' fits apply
    exact ⟨r', steps, ih x h⟩
  | note entry next ih => exact ih h
  | call c next ih => exact ⟨h.1, fun x fair => ih _ (h.2 x fair)⟩

theorem log {entry : Log.Entry} {f : Unit → Program α} (h : Climbs ends r (f ())) :
    Climbs ends r (Program.log entry >>= f) := h

theorem ask {c : Call} {f : c.Answer → Program α} (asks : r.Asks c)
    (h : ∀ x, c.Fair x → Climbs ends (r.hear c x) (f x)) :
    Climbs ends r (Program.ask c >>= f) := ⟨asks, h⟩

theorem touch {a : Access} {f : a.Answer → Program α}
    (h : ∀ s x s', r.Fits s → a.apply s = some (x, s') →
      ∃ r', r.Steps s r' s' ∧ Climbs ends r' (f x)) :
    Climbs ends r (Program.touch a >>= f) := h

/-- An access that leaves alone what tasks know leaves its task where it is. -/
theorem stay {a : Access} {f : a.Answer → Program α} (plain : a.isPlain = true)
    (h : ∀ s x s', r.Fits s → a.apply s = some (x, s') → Climbs ends r (f x)) :
    Climbs ends r (Program.touch a >>= f) := by
  intro s x s' fits apply
  obtain ⟨beside, state⟩ := Access.beside_of_isPlain plain apply
  exact ⟨r, ⟨.stay r, fits.of_beside beside (state ▸ Nat.le_refl _), fun _ => beside⟩,
    h s x s' fits apply⟩

theorem withLock {l : Lock} {body : Program α} (h : Climbs ends r body) :
    Climbs ends r (Program.withLock l body) := by
  refine stay rfl fun _ _ _ _ _ => ensure (mono h fun a r ended => ?_)
  exact stay (f := Program.done) rfl fun _ _ _ _ _ => ended

end Climbs

/-! ## Requests -/

theorem Access.apply_install {target : State} {s s' : Shared} {x : Except IllegalMove Edge}
    (h : (Access.install target).apply s = some (x, s')) :
    (∃ edge, Edge.between? s.state target = some edge ∧ x = .ok edge ∧
      s' = { s with state := target }) ∨
    Edge.between? s.state target = none ∧ x = .error ⟨s.state, target⟩ ∧ s' = s := by
  simp only [Access.apply, Shared.install, State.move, Option.some.injEq] at h
  cases between : Edge.between? s.state target with
  | some edge =>
    rw [between] at h
    cases h
    exact .inl ⟨edge, rfl, rfl, rfl⟩
  | none =>
    rw [between] at h
    cases h
    exact .inr ⟨rfl, rfl, rfl⟩

theorem Rung.hear_notice (r : Rung) (n : Notice) (x : Unit) : r.hear (.notice n) x = r := by
  cases r <;> rfl

theorem Rung.asks_notice (r : Rung) (n : Notice) : r.Asks (.notice n) := by
  cases r <;> trivial

section Climbs

variable {r : Rung} {ends : Outcome → Rung → Prop}

theorem climbs_requestWith {act : Duty → Program Outcome} {target : State} (live : target ≠ .dead)
    (granted : ∀ s, r.Fits s → (Edge.between? s.state target).isSome = true →
      ∃ r', r.Steps s r' { s with state := target } ∧
        Climbs ends r' (match target.duty with | some duty => act duty | none => pure (.ok ())))
    (refused : ∀ s, r.Fits s → Edge.between? s.state target = none →
      ends (.error (.illegalMove ⟨s.state, target⟩)) r) :
    Climbs ends r (requestWith act target) := by
  refine .touch fun s x s' fits apply => ?_
  rcases Access.apply_install apply with ⟨edge, between, rfl, rfl⟩ | ⟨none, rfl, rfl⟩
  · obtain ⟨r', steps, climbs⟩ := granted s fits (by rw [between]; rfl)
    refine ⟨r', steps, .log (.ask (r'.asks_notice _) fun _ _ => ?_)⟩
    rw [r'.hear_notice, Edge.eq_of_between? between]
    cases target with
    | dead => exact (live rfl).elim
    | idle | storagePrepared | active => exact climbs
    | preparingStorage | leaderAwaitingRegistration | registeredLeader =>
      exact .bind (climbs.mono fun _ _ ended => ended)
  · exact ⟨r, ⟨.stay r, fits, fun _ => .refl _⟩, refused _ fits none⟩

/-- A request that must be granted. -/
theorem climbs_granted {act : Duty → Program Outcome} {target : State} {r' : Rung}
    (live : target ≠ .dead) (next : r.Next r') (main : r.isAside = false)
    (fits : ∀ s, r.Fits s →
      (Edge.between? s.state target).isSome = true ∧ r'.Fits { s with state := target })
    (work : Climbs ends r'
      (match target.duty with | some duty => act duty | none => pure (.ok ()))) :
    Climbs ends r (requestWith act target) := by
  refine climbs_requestWith live (fun s here _ => ?_) fun s here none => ?_
  · exact ⟨r', ⟨next, (fits s here).2, fun aside => by rw [main] at aside; cases aside⟩, work⟩
  · have some := (fits s here).1
    rw [none] at some
    cases some

end Climbs

/-! ## The work of those who lead -/

section Works

theorem climbs_prepareStorage :
    Climbs (fun outcome r => outcome = .ok () ∧ r = .prepared) .preparing prepareStorage := by
  refine .ask trivial fun x fair => ?_
  obtain rfl : x = .ok () := fair
  have prepared : Climbs (fun outcome r => outcome = .ok () ∧ r = .prepared) .ready
      (requestPlain .storagePrepared) := by
    refine climbs_granted (by decide) .prepare rfl (fun s fits => ?_) ⟨rfl, rfl⟩
    rw [fits.1]
    exact ⟨rfl, rfl, fits.2⟩
  refine .bind (prepared.mono ?_)
  rintro _ _ ⟨rfl, rfl⟩
  exact ⟨rfl, rfl⟩

theorem climbs_prepare :
    Climbs (fun outcome r => outcome = .ok () ∧ r = .prepared) .idle prepare := by
  refine climbs_granted (by decide) .begin rfl (fun s fits => ?_) climbs_prepareStorage
  rw [fits.1]
  exact ⟨rfl, rfl, fits.2⟩

variable {grant : Grant}

theorem climbs_startUnlessDead {driver : DriverId} :
    Climbs (fun started r => started = true ∧ r = .driving grant driver)
      (.published grant driver) (startUnlessDead driver) := by
  refine .stay rfl fun s x s' fits apply => ?_
  obtain ⟨⟨live, -⟩, -⟩ := fits
  cases apply
  cases state : s.state with
  | dead => exact (live state).elim
  | _ => exact .ask rfl fun _ _ => ⟨rfl, rfl⟩

theorem climbs_bringUpDriver (id : Option String) :
    Climbs (fun _ r => ∃ driver, r = .driving grant driver) (.leading grant)
      (bringUpDriver id) := by
  refine .log (.ask trivial fun driver _ => .touch fun s x s' fits apply => ?_)
  obtain ⟨live, begun, slot⟩ : s.Led grant := fits
  cases apply
  refine ⟨.published grant driver, ⟨.publish grant driver, ⟨⟨live, begun, slot⟩, rfl⟩, nofun⟩, ?_⟩
  refine .ask trivial fun _ _ => .ask trivial fun _ _ => ?_
  refine .bind (.withLock (climbs_startUnlessDead.mono ?_))
  rintro _ _ ⟨rfl, rfl⟩
  exact ⟨trivial, fun _ _ => ⟨driver, rfl⟩⟩

theorem climbs_takeLead :
    Climbs (fun _ r => ∃ driver, r = .driving grant driver) (.leading grant) takeLead := by
  refine .log (.ask trivial fun x fair => ?_)
  obtain rfl : x = .ok () := fair
  refine .ask trivial fun x fair => ?_
  obtain ⟨id, rfl⟩ := fair
  exact climbs_bringUpDriver id

theorem climbs_lead :
    Climbs (fun outcome r => outcome = .ok () ∧ ∃ driver, r = .driving grant driver)
      (.elected grant) (lead grant) := by
  refine .withLock (.touch fun s x s' fits apply => ?_)
  obtain ⟨state, slot⟩ := fits
  cases apply
  rw [slot]
  refine ⟨.offered grant, ⟨.offer grant, ⟨state, rfl⟩, nofun⟩, ?_⟩
  refine .bind (climbs_granted (by decide) (.lead grant) rfl (fun s fits => ?_)
    (.bind (climbs_takeLead.mono ?_)))
  · rw [fits.1]
    exact ⟨rfl, nofun, Nat.le_refl _, fits.2⟩
  · rintro _ _ driving
    exact ⟨rfl, driving⟩

end Works

/-! ## The work of those who do not -/

section Aside

variable {grant : Grant} {ends : Outcome → Rung → Prop}

theorem climbs_acknowledge :
    Climbs (fun acknowledged r => acknowledged = true ∧ r = .confirming grant)
      (.confirming grant) acknowledge := by
  refine .stay rfl fun s x s' fits apply => ?_
  have live := fits.1.live
  cases apply
  cases state : s.state with
  | dead => exact (live state).elim
  | _ =>
    refine .stay rfl fun _ _ _ _ _ => .stay rfl fun s x s' fits apply => ?_
    have live := fits.1.live
    cases apply
    cases state : s.state with
    | dead => exact (live state).elim
    | _ => exact ⟨rfl, rfl⟩

theorem climbs_confirmRegistration :
    Climbs (fun _ _ => True) (.confirming grant) confirmRegistration := by
  refine .bind (climbs_acknowledge.mono ?_)
  rintro _ _ ⟨rfl, rfl⟩
  refine .ask rfl fun _ _ => .stay rfl fun s x s' fits apply => ?_
  have slot := fits.1.slot
  cases apply
  rw [slot]
  refine .ask rfl fun x fair => ?_
  obtain rfl : x = .ok () := fair
  trivial

/-- Who does not lead can move on a replica that is led, and no other. -/
theorem Rung.Fits.beside_of_between? {s : Shared} (fits : Rung.aside.Fits s) {target : State}
    (late : State.leaderAwaitingRegistration.rank < target.rank) (live : target ≠ .dead)
    (between : (Edge.between? s.state target).isSome = true) :
    s.Beside { s with state := target } ∧ Rung.aside.Fits { s with state := target } := by
  have next := (Edge.rank_of_between? between).resolve_left live
  have begun : State.leaderAwaitingRegistration.rank ≤ s.state.rank := by omega
  exact ⟨⟨rfl, rfl, .inr ⟨live, begun, Nat.le_of_lt late⟩⟩, live, fun _ => fits.2 begun⟩

theorem climbs_registered (id : String) : Climbs (fun _ _ => True) .aside (registered id) := by
  refine .log (climbs_requestWith (by decide) (fun s fits between => ?_) fun _ _ _ => trivial)
  obtain ⟨beside, live, slot⟩ := fits.beside_of_between? (by decide) (by decide) between
  have begun : State.leaderAwaitingRegistration.rank ≤ State.registeredLeader.rank := by decide
  obtain ⟨grant, slot⟩ := slot begun
  refine ⟨.confirming grant, ⟨.register grant, ⟨⟨live, begun, slot⟩, Nat.le_refl _⟩,
    fun _ => beside⟩, .bind (climbs_confirmRegistration.mono fun _ _ _ => trivial)⟩

theorem climbs_activate : Climbs (fun _ _ => True) .aside (request .active) := by
  refine climbs_requestWith (by decide) (fun s fits between => ?_) fun _ _ _ => trivial
  obtain ⟨beside, fits⟩ := fits.beside_of_between? (by decide) (by decide) between
  exact ⟨.aside, ⟨.stay _, fits, fun _ => beside⟩, trivial⟩

end Aside

/-! ## Tasks of a pool -/

/-- How a task ended, if it has. -/
def Pool.outcome? (p : Pool) (i : Nat) : Option Outcome :=
  p.tasks[i]?.bind fun entry => entry.2.outcome?

theorem Pool.Moves.rank_le {s s' : Shared} {task task' : Task} {act : Option Act}
    (moves : Moves s task act s' task') : s.state.rank ≤ s'.state.rank := by
  cases moves with
  | @access a next x _ apply =>
    have possible : (Act.accessed a x).Possible s := ⟨_, apply⟩
    rw [Act.effect_of_apply apply]
    exact possible.rank_le
  | note | call | answer => exact Nat.le_refl _

/-- How an operation of a replica that comes up ends. -/
def Operation.Tops : Operation → Outcome → Rung → Prop
  | prepare, outcome, r => outcome = .ok () ∧ r = .prepared
  | lead grant, outcome, r => outcome = .ok () ∧ ∃ driver, r = .driving grant driver
  | _, _, _ => True

/-- What is left of a task climbs. -/
def Task.Climbs (ends : Outcome → Rung → Prop) (r : Rung) : Task → Prop
  | running rest => Lifecycle.Climbs ends r rest
  | calling c next => r.Asks c ∧ ∀ x, c.Fair x → Lifecycle.Climbs ends (r.hear c x) (next (some x))

namespace Task.Climbs

variable {ends : Outcome → Rung → Prop} {r : Rung} {s s' : Shared} {task task' : Task}

theorem advance (h : task.Climbs ends r) (fits : r.Fits s) {act : Option Act}
    (step : task.advance? s = some (act, s', task')) :
    ∃ r', r.Steps s r' s' ∧ task'.Climbs ends r' := by
  have moves := Pool.moves_of_advance? step
  cases moves with
  | access apply => exact h s _ s' fits apply
  | note => exact ⟨r, ⟨.stay r, fits, fun _ => .refl s⟩, h⟩
  | call => exact ⟨r, ⟨.stay r, fits, fun _ => .refl s⟩, h⟩
  | answer => cases step

theorem answer (h : task.Climbs ends r) {c : Call} {x : c.Answer}
    (step : task.answer? c (some x) = some task') (fair : c.Fair x) :
    task'.Climbs ends (r.hear c x) := by
  cases task with
  | running rest => cases step
  | calling c' next =>
    simp only [Task.answer?] at step
    split at step
    · next same =>
      subst same
      cases step
      exact h.2 x fair
    · cases step

end Task.Climbs

/-- What a task of another knows stays true, whoever moves. -/
theorem Rung.Fits.of_steps {r r' other : Rung} {s s' : Shared} (h : other.Fits s)
    (aside : other.isAside = true) (fits : r.Fits s) (steps : r.Steps s r' s')
    (rank : s.state.rank ≤ s'.state.rank) : other.Fits s' := by
  cases other with
  | aside => exact steps.fits.live
  | confirming => exact ⟨steps.led fits h.1, Nat.le_trans h.2 rank⟩
  | _ => cases aside

/-- Of the tasks of a pool one leads, if any, and is at a rung; all others are over or aside. -/
structure Pool.Climbs (p : Pool) (main : Option (Nat × Operation)) (r : Rung) : Prop where
  fits : r.Fits p.shared
  leads : r.isAside = false
  own : ∀ i o, main = some (i, o) → ∃ task, p.tasks[i]? = some (o, task) ∧ task.Climbs o.Tops r
  others : ∀ i o task, p.tasks[i]? = some (o, task) → main.map Prod.fst ≠ some i →
    task.isOver = true ∨ ∃ r', r'.isAside = true ∧ r'.Fits p.shared ∧ task.Climbs o.Tops r'

namespace Pool.Climbs

variable {p : Pool} {main : Option (Nat × Operation)} {r r' : Rung} {i : Nat} {o : Operation}
  {task task' : Task} {act : Option Act} {s : Shared}

theorem start : Pool.Climbs {} none .idle := ⟨⟨rfl, rfl⟩, rfl, nofun, by simp⟩

/-- A task that moves is the one that leads, or is aside. -/
theorem of_task (h : p.Climbs main r) (hi : p.tasks[i]? = some (o, task))
    (active : task.isOver = false) :
    main = some (i, o) ∧ task.Climbs o.Tops r ∨
      main.map Prod.fst ≠ some i ∧
        ∃ r', r'.isAside = true ∧ r'.Fits p.shared ∧ task.Climbs o.Tops r' := by
  by_cases own : main.map Prod.fst = some i
  · obtain ⟨⟨j, o'⟩, leads, rfl⟩ := Option.map_eq_some_iff.mp own
    obtain ⟨task', hi', climbs⟩ := h.own j o' leads
    cases hi.symm.trans hi'
    exact .inl ⟨leads, climbs⟩
  · refine .inr ⟨own, (h.others i o task hi own).resolve_left ?_⟩
    rw [active]
    nofun

/-- The task that leads goes on. -/
theorem put_own (h : p.Climbs main r) (own : main = some (i, o))
    (hi : p.tasks[i]? = some (o, task)) (fits : r'.Fits s) (leads : r'.isAside = false)
    (climbs : task'.Climbs o.Tops r')
    (others : ∀ other : Rung, other.isAside = true → other.Fits p.shared → other.Fits s) :
    (p.put i o act s task').Climbs main r' where
  fits := fits
  leads := leads
  own := by
    rintro j o' eq
    cases own.symm.trans eq
    have lt : i < p.tasks.length := (List.getElem?_eq_some_iff.mp hi).1
    exact ⟨task', List.getElem?_set_self lt, climbs⟩
  others := by
    intro j o' task'' hj ne
    have ij : i ≠ j := by
      rintro rfl
      exact ne (by rw [own]; rfl)
    rw [Pool.put, List.getElem?_set_ne ij] at hj
    refine (h.others j o' task'' hj ne).imp_right ?_
    rintro ⟨r₁, aside, fits, climbs⟩
    exact ⟨r₁, aside, others r₁ aside fits, climbs⟩

/-- A task aside goes on. -/
theorem put_other (h : p.Climbs main r) (other : main.map Prod.fst ≠ some i)
    (leader : r.Fits s) (fits : r'.Fits s) (aside : r'.isAside = true)
    (climbs : task'.Climbs o.Tops r')
    (others : ∀ other : Rung, other.isAside = true → other.Fits p.shared → other.Fits s) :
    (p.put i o act s task').Climbs main r where
  fits := leader
  leads := h.leads
  own := by
    rintro j o' own
    have ij : i ≠ j := by
      rintro rfl
      exact other (by rw [own]; rfl)
    obtain ⟨task, hj, climbs⟩ := h.own j o' own
    exact ⟨task, (List.getElem?_set_ne ij).trans hj, climbs⟩
  others := by
    intro j o' task'' hj ne
    by_cases ij : i = j
    · subst ij
      have lt : i < p.tasks.length := by
        simpa [Pool.put] using (List.getElem?_eq_some_iff.mp hj).1
      rw [Pool.put, List.getElem?_set_self lt] at hj
      cases hj
      exact .inr ⟨r', aside, fits, climbs⟩
    · rw [Pool.put, List.getElem?_set_ne ij] at hj
      refine (h.others j o' task'' hj ne).imp_right ?_
      rintro ⟨r₁, aside, fits, climbs⟩
      exact ⟨r₁, aside, others r₁ aside fits, climbs⟩

theorem advance (h : p.Climbs main r) {q : Pool} (step : p.step? (.advance i) = some q) :
    ∃ r', r.Next r' ∧ (main.map Prod.fst ≠ some i → r' = r) ∧ q.Climbs main r' := by
  simp only [Pool.step?, Option.bind_eq_some_iff, Option.map_eq_some_iff, Prod.exists] at step
  obtain ⟨o, task, hi, act, s, task', move, rfl⟩ := step
  have rank := (Pool.moves_of_advance? move).rank_le
  have active : task.isOver = false := by
    cases task with
    | calling => rfl
    | running rest => cases rest <;> first | rfl | cases move
  -- The task that leads changes nothing that those aside rely on, nor do they for it.
  rcases h.of_task hi active with ⟨own, climbs⟩ | ⟨other, r₁, aside, fits, climbs⟩
  · obtain ⟨r', steps, climbs⟩ := climbs.advance h.fits move
    refine ⟨r', steps.next, fun other => (other (by rw [own]; rfl)).elim,
      h.put_own own hi steps.fits ?_ climbs fun other aside fits => ?_⟩
    · exact steps.next.isAside.trans h.leads
    · exact fits.of_steps aside h.fits steps rank
  · obtain ⟨r₂, steps, climbs⟩ := climbs.advance fits move
    have leader := h.fits.of_beside (steps.beside aside) rank
    refine ⟨r, .stay r, fun _ => rfl, h.put_other other leader steps.fits
      (steps.next.isAside.trans aside) climbs fun _ _ fits => ?_⟩
    exact fits.of_beside (steps.beside aside) rank

theorem answer (h : p.Climbs main r) {q : Pool} {c : Call} {x : c.Answer}
    (step : p.step? (.answer i c (some x)) = some q) (fair : c.Fair x) :
    q.Climbs main (if main.map Prod.fst = some i then r.hear c x else r) := by
  simp only [Pool.step?, Option.bind_eq_some_iff, Option.map_eq_some_iff, Prod.exists] at step
  obtain ⟨o, task, hi, task', move, rfl⟩ := step
  have active : task.isOver = false := by
    cases task with
    | calling => rfl
    | running => cases move
  rcases h.of_task hi active with ⟨own, climbs⟩ | ⟨other, r₁, aside, fits, climbs⟩
  · rw [if_pos (by rw [own]; rfl)]
    exact h.put_own own hi (h.fits.hear x) ((r.isAside_hear x).trans h.leads)
      (climbs.answer move fair) fun _ _ fits => fits
  · rw [if_neg other]
    exact h.put_other other h.fits (fits.hear x) ((r₁.isAside_hear x).trans aside)
      (climbs.answer move fair) fun _ _ fits => fits

/-- An operation that does not lead is begun. -/
theorem begin_aside (h : p.Climbs main r) {operation : Operation} {q : Pool}
    (step : p.step? (.begin operation) = some q)
    (climbs : Lifecycle.Climbs operation.Tops .aside operation.program) : q.Climbs main r := by
  cases step
  refine ⟨h.fits, h.leads, fun i o own => ?_, fun i o task hi ne => ?_⟩
  · obtain ⟨task, hi, climbs⟩ := h.own i o own
    have lt := (List.getElem?_eq_some_iff.mp hi).1
    exact ⟨task, (List.getElem?_append_left lt).trans hi, climbs⟩
  · by_cases lt : i < p.tasks.length
    · exact h.others i o task (by rwa [List.getElem?_append_left lt] at hi) ne
    · rw [List.getElem?_append_right (Nat.le_of_not_lt lt), List.getElem?_singleton] at hi
      split at hi
      · cases hi
        exact .inr ⟨.aside, rfl, h.fits.live, climbs⟩
      · cases hi

/-- An operation that leads is begun, once the one before it is over. -/
theorem begin_own (h : p.Climbs main r) {operation : Operation} {q : Pool}
    (step : p.step? (.begin operation) = some q) (fits : r'.Fits p.shared)
    (leads : r'.isAside = false) (climbs : Lifecycle.Climbs operation.Tops r' operation.program)
    (finished : ∀ i o task, main = some (i, o) → p.tasks[i]? = some (o, task) →
      task.isOver = true) :
    q.Climbs (some (p.tasks.length, operation)) r' := by
  cases step
  refine ⟨fits, leads, ?_, fun i o task hi ne => ?_⟩
  · rintro i o ⟨⟩
    exact ⟨.running operation.program, by simp, climbs⟩
  · have lt : i < p.tasks.length := by
      have bound := (List.getElem?_eq_some_iff.mp hi).1
      rw [List.length_append, List.length_singleton] at bound
      exact Nat.lt_of_le_of_ne (Nat.le_of_lt_succ bound) fun eq => ne (by rw [eq]; rfl)
    rw [List.getElem?_append_left lt] at hi
    by_cases own : main.map Prod.fst = some i
    · obtain ⟨⟨j, o'⟩, leads, rfl⟩ := Option.map_eq_some_iff.mp own
      obtain ⟨task', hi', -⟩ := h.own j o' leads
      cases hi.symm.trans hi'
      exact .inl (finished j o task leads hi)
    · exact h.others i o task hi own

/-- What a task waits for is what it may ask for. -/
theorem asks (h : p.Climbs main r) (hi : p.tasks[i]? = some (o, task)) {c : Call}
    (waits : task.open? = some c) :
    main = some (i, o) ∧ r.Asks c ∨
      main.map Prod.fst ≠ some i ∧
        ∃ r' : Rung, r'.isAside = true ∧ r'.Fits p.shared ∧ r'.Asks c := by
  cases task with
  | running => cases waits
  | calling c' next =>
    cases waits
    rcases h.of_task hi rfl with ⟨own, climbs⟩ | ⟨other, r', aside, fits, climbs⟩
    · exact .inl ⟨own, climbs.1⟩
    · exact .inr ⟨other, r', aside, fits, climbs.1⟩

/-- Of an operation that leads and is over it is told how it ended. -/
theorem tops (h : p.Climbs (some (i, o)) r) {outcome : Outcome}
    (ended : p.outcome? i = some outcome) :
    o.Tops outcome r ∧ ∃ task, p.tasks[i]? = some (o, task) ∧ task.isOver = true := by
  obtain ⟨task, hi, climbs⟩ := h.own i o rfl
  have ended : task.outcome? = some outcome := by
    simpa [Pool.outcome?, hi] using ended
  cases task with
  | calling => cases ended
  | running rest =>
    cases rest with
    | done =>
      cases ended
      exact ⟨climbs, _, hi, rfl⟩
    | _ => cases ended

end Pool.Climbs

end Tenure.Lifecycle
