import Tenure.Proofs.Alone
import Tenure.Proofs.Repair
import Tenure.Standalone.Scheduler

/-!
# A leader starts on a readable store only

Before it makes a driver, a leader repairs the records of its store and reads the identity of the
framework. If either fails the replica dies, and no driver is ever made. So a driver is made
without an identity only if there is none in the store.
-/
namespace Tenure

/-! ## Stores that can be read -/

namespace Store

variable {s : Store}

/-- What the store has for an identity, if that can be read: a text, or nothing at all. -/
def Identifies (s : Store) (id : Option String) : Prop :=
  match s.scheduler.get? identityKey with
  | none => id = none
  | some bytes => ∃ name, decodeText bytes = .ok name ∧ id = some name

theorem frameworkId_of_identifies {id : Option String} (h : s.Identifies id) :
    s.frameworkId = .ok id := by
  rw [Identifies] at h
  rw [frameworkId]
  cases stored : s.scheduler.get? identityKey with
  | none =>
    rw [stored] at h
    rw [h]
  | some bytes =>
    rw [stored] at h
    obtain ⟨name, decoded, rfl⟩ := h
    show (orCorrupt identityKey Json.Scan.asText bytes (decodeText bytes)).map some = _
    rw [decoded]
    rfl

/-- Nothing is what is read only if nothing is there. -/
theorem absent_of_identifies_none (h : s.Identifies none) :
    s.scheduler.get? identityKey = none := by
  rw [Identifies] at h
  cases stored : s.scheduler.get? identityKey with
  | none => rfl
  | some bytes =>
    rw [stored] at h
    obtain ⟨name, -, absurd⟩ := h
    cases absurd

theorem frameworkId_of_corrupt (h : ∀ id, ¬ s.Identifies id) : ∃ e, s.frameworkId = .error e := by
  rw [frameworkId]
  cases stored : s.scheduler.get? identityKey with
  | none =>
    refine (h none ?_).elim
    rw [Identifies, stored]
  | some bytes =>
    cases decoded : decodeText bytes with
    | ok name =>
      refine (h (some name) ?_).elim
      rw [Identifies, stored]
      exact ⟨name, decoded, rfl⟩
    | error fault =>
      show ∃ e, (orCorrupt identityKey Json.Scan.asText bytes (decodeText bytes)).map some = _
      rw [decoded]
      exact ⟨_, rfl⟩

end Store

/-! ## The storage of a scheduler -/

namespace Durable

variable {d : Durable}

/-- The repair of the store, as a replica calls for it. -/
def repair : StateM Durable (Except StorageError Unit) :=
  storage.start (.backfill fun result => .done (result.map fun _ => ()))

theorem repair_of_readable (opened : d.slot = .opened) (readable : d.contents.Readable) :
    repair.run d = (.ok (), d.write d.contents.backfilled) := by
  obtain ⟨count, backfill⟩ := Store.backfill_of_readable readable
  rw [repair, start_run, usable, opened, run_backfill, backfill_run, backfill]
  rfl

theorem repair_of_not_readable (opened : d.slot = .opened) (unreadable : ¬ d.contents.Readable) :
    ∃ e, repair.run d = (.error e, d) := by
  obtain ⟨e, backfill⟩ := Store.backfill_of_not_readable unreadable
  refine ⟨.backend ⟨e.message, e.exactMessage⟩, ?_⟩
  rw [repair, start_run, usable, opened, run_backfill, backfill_run, backfill]
  rfl

/-- The identity is not touched by a repair. -/
theorem fetch_after_repair (opened : d.slot = .opened) :
    (storage.read (.fetch .done)).run (d.write d.contents.backfilled) =
      (ofStore d.contents.frameworkId, d.write d.contents.backfilled) := by
  have usable : (d.write d.contents.backfilled).usable = .ok () := by
    rw [usable, write, opened]
  rw [read_run, usable]
  rfl

end Durable

namespace Lifecycle

variable {σ α : Type}

/-- What a storage makes of a call, if the call is one to the storage. -/
def Call.onStorage? : (c : Call) → Option (StateM Durable c.Answer)
  | prepareStorage => some Durable.storage.prepare
  | repairStorage => some Durable.repair
  | readFrameworkId => some (Durable.storage.read (.fetch .done))
  | stopStorage => some Durable.storage.stop
  | _ => none

/-- A crew that does not panic and of which the storage is a part. Nobody else touches the storage
but a driver, which may save its identity when it is started. -/
structure Crew.Stores (serve : Crew σ) (storage : σ → Durable) : Prop where
  own : ∀ c use s, c.onStorage? = some use →
    (serve c s).1 = some (use.run (storage s)).1 ∧
      storage (serve c s).2 = (use.run (storage s)).2
  answers : ∀ c s, c.onStorage? = none → (serve c s).1.isSome = true
  other : ∀ c s, c.onStorage? = none → (∀ driver, c ≠ .startDriver driver) →
    storage (serve c s).2 = storage s
  starts : ∀ driver s, (storage (serve (.startDriver driver) s).2).contents.tasks =
    (storage s).contents.tasks

namespace Alone.ComesTo

variable {serve : Crew σ} {storage : σ → Durable} {ends : Option α → Alone σ → Prop} {s : Shared}
  {crew : σ} {acts : List Act}

/-- The storage answers. -/
theorem askStorage (stores : serve.Stores storage) {c : Call} {use : StateM Durable c.Answer}
    {x : c.Answer} {d : Durable} {f : c.Answer → Program α} (own : c.onStorage? = some use)
    (used : use.run (storage crew) = (x, d))
    (h : ∀ crew', storage crew' = d →
      ComesTo serve ends (f x) ⟨s, crew', acts ++ [.called c, .answered c (some x)]⟩) :
    ComesTo serve ends (Program.ask c >>= f) ⟨s, crew, acts⟩ := by
  obtain ⟨answered, stored⟩ := stores.own c use crew own
  rw [used] at answered stored
  refine .ask (fun crew' served => ?_) fun y crew' served => ?_
  · rw [served] at answered
    cases answered
  · rw [served] at answered stored
    cases answered
    exact h crew' stored

/-- Anybody else answers, and leaves the storage alone. -/
theorem askOther (stores : serve.Stores storage) {c : Call} {f : c.Answer → Program α}
    (other : c.onStorage? = none) (starts : ∀ driver, c ≠ .startDriver driver)
    (h : ∀ x crew', storage crew' = storage crew →
      ComesTo serve ends (f x) ⟨s, crew', acts ++ [.called c, .answered c (some x)]⟩) :
    ComesTo serve ends (Program.ask c >>= f) ⟨s, crew, acts⟩ := by
  refine .ask (fun crew' served => ?_) fun x crew' served => ?_
  · have answered := stores.answers c crew other
    rw [served] at answered
    cases answered
  · have same := stores.other c crew other starts
    rw [served] at same
    exact h x crew' same

/-- A driver is started. -/
theorem askStart (stores : serve.Stores storage) {driver : DriverId}
    {f : DriverStatus → Program α}
    (h : ∀ x crew', (storage crew').contents.tasks = (storage crew).contents.tasks →
      ComesTo serve ends (f x)
        ⟨s, crew',
          acts ++ [.called (.startDriver driver), .answered (.startDriver driver) (some x)]⟩) :
    ComesTo serve ends (Program.ask (.startDriver driver) >>= f) ⟨s, crew, acts⟩ := by
  refine .ask (fun crew' served => ?_) fun x crew' served => ?_
  · have answered := stores.answers (.startDriver driver) crew rfl
    rw [served] at answered
    cases answered
  · have same := stores.starts driver crew
    rw [served] at same
    exact h x crew' same

end Alone.ComesTo

open Alone

/-! ## A leader that dies -/

section Death

variable {serve : Crew σ} {storage : σ → Durable} {acknowledged : Bool} {s : Shared} {crew : σ}
  {acts : List Act} {grant : Grant}

theorem comesTo_leaveGroup {ends : Option Unit → Alone σ → Prop} (stores : serve.Stores storage)
    (h : ∀ x crew', storage crew' = storage crew →
      ends (some ()) ⟨s, crew', acts ++ [.called (.leave grant), .answered (.leave grant) x]⟩) :
    ComesTo serve ends (leaveGroup (some grant)) ⟨s, crew, acts⟩ := by
  refine .askOther stores rfl nofun fun x crew₁ same => ?_
  cases x with
  | ok => exact ⟨some (), _, rfl, h _ crew₁ same⟩
  | error => exact ⟨some (), _, rfl, h _ crew₁ same⟩

theorem comesTo_stopStorage {ends : Option Unit → Alone σ → Prop} (stores : serve.Stores storage)
    (h : ∀ x crew', storage crew' = { storage crew with slot := .stopped } →
      ends (some ()) ⟨s, crew', acts ++ [.called .stopStorage, .answered .stopStorage x]⟩) :
    ComesTo serve ends stopStorage ⟨s, crew, acts⟩ := by
  refine .askStorage stores rfl (x := Except.ok ()) rfl fun crew₁ stopped => ?_
  exact ⟨some (), _, rfl, h _ crew₁ stopped⟩

/-- What is left of a leader that has died before it had a driver. -/
def Shared.fallen : Shared where
  state := .dead
  tornDown := true
  grantsHeld := true

theorem comesTo_tearDown (stores : serve.Stores storage) :
    ComesTo serve
      (fun x w => x = some () ∧ w.shared = .fallen ∧
        storage w.crew = { storage crew with slot := .stopped } ∧
        w.calls = acts.filterMap Act.call? ++ [.leave grant, .stopStorage, .shutdown])
      tearDown
      ⟨{ state := .dead, acknowledged, slot := some grant, grantsHeld := true }, crew, acts⟩ := by
  refine .touch (x := true) rfl (.ensure ?_)
  refine .touch (x := some grant) rfl (.bind (comesTo_leaveGroup stores fun _ crew₁ same₁ => ?_))
  refine .bind (.withLock rfl (.touch (x := none) rfl ⟨some (), _, rfl, ?_⟩))
  refine .touchLast rfl (.bind (comesTo_stopStorage stores fun _ crew₂ stopped => ?_))
  refine .touch rfl ⟨some (), _, rfl, ?_⟩
  rw [← Program.bind_done (Program.ask .shutdown)]
  refine .askOther stores rfl nofun fun _ crew₃ same₃ => ⟨_, _, rfl, rfl, rfl, ?_, ?_⟩
  · rw [same₃, stopped, same₁]
  · simp [calls]
    rfl

/-- The variables while a replica takes the lead. -/
def Shared.leading (acknowledged : Bool) (grant : Grant) : Shared where
  state := .leaderAwaitingRegistration
  acknowledged
  slot := some grant
  grantsHeld := true

/-- A leader without a driver that dies leaves its group and stops its storage. -/
theorem comesTo_kill (stores : serve.Stores storage) (reason : String) :
    ComesTo serve
      (fun x w => x = some () ∧ w.shared = .fallen ∧
        storage w.crew = { storage crew with slot := .stopped } ∧
        w.calls = acts.filterMap Act.call? ++
          [.notice (.installed .dead), .leave grant, .stopStorage, .shutdown])
      (kill reason) ⟨.leading acknowledged grant, crew, acts⟩ := by
  rw [kill]
  refine .log (.bind (.touch (x := .ok ⟨.leaderAwaitingRegistration, .dead, none⟩) rfl ?_))
  refine .log (.askOther stores rfl nofun fun _ crew₁ same₁ => ?_)
  show ComesTo serve _ (tearDown >>= fun _ => (pure (.ok ()) : Program Outcome)) _
  refine .bind ((comesTo_tearDown stores).mono fun x w ⟨done, shared, stored, calls⟩ => ?_)
  subst done
  refine ⟨_, w, rfl, some (), w, rfl, rfl, shared, ?_, ?_⟩
  · rw [stored, same₁]
  · rw [calls]
    simp
    rfl

end Death

/-! ## Taking the lead -/

/-- The driver that an act makes. -/
def Act.created? : Act → Option DriverId
  | answered (.createDriver _) driver => driver
  | _ => none

/-- The drivers that were made. -/
def Alone.drivers (w : Alone σ) : List DriverId := w.acts.filterMap Act.created?

section Lead

variable {serve : Crew σ} {storage : σ → Durable} {acknowledged : Bool} {crew : σ}
  {acts : List Act} {grant : Grant} {d : Durable} {before : List Call}

/-- A store that cannot be repaired is left alone. -/
theorem comesTo_takeLead_of_not_readable (stores : serve.Stores storage) (stored : storage crew = d)
    (called : acts.filterMap Act.call? = before) (opened : d.slot = .opened)
    (unreadable : ¬ d.contents.Readable) :
    ComesTo serve
      (fun x w => x = some () ∧ w.shared = .fallen ∧ storage w.crew = { d with slot := .stopped } ∧
        w.calls = before ++
          [.repairStorage, .notice (.installed .dead), .leave grant, .stopStorage, .shutdown])
      takeLead ⟨.leading acknowledged grant, crew, acts⟩ := by
  subst stored called
  obtain ⟨e, failed⟩ := Durable.repair_of_not_readable opened unreadable
  refine .log (.askStorage stores rfl failed fun crew₁ same₁ => .log ?_)
  refine (comesTo_kill stores _).mono fun x w ⟨done, shared, stored, calls⟩ => ?_
  refine ⟨done, shared, by rw [stored, same₁], ?_⟩
  rw [calls]
  simp
  rfl

theorem comesTo_takeLead_of_corrupt (stores : serve.Stores storage) (stored : storage crew = d)
    (called : acts.filterMap Act.call? = before) (opened : d.slot = .opened)
    (readable : d.contents.Readable) {e : StoreError}
    (corrupt : d.contents.frameworkId = .error e) :
    ComesTo serve
      (fun x w => x = some () ∧ w.shared = .fallen ∧
        storage w.crew = { d.write d.contents.backfilled with slot := .stopped } ∧
        w.calls = before ++
          [.repairStorage, .readFrameworkId, .notice (.installed .dead), .leave grant,
            .stopStorage, .shutdown])
      takeLead ⟨.leading acknowledged grant, crew, acts⟩ := by
  subst stored called
  refine .log (.askStorage stores rfl (Durable.repair_of_readable opened readable)
    fun crew₁ same₁ => ?_)
  have failed := Durable.fetch_after_repair opened
  rw [← same₁, corrupt] at failed
  refine .askStorage stores rfl failed fun crew₂ same₂ => .log ?_
  refine (comesTo_kill stores _).mono fun x w ⟨done, shared, stored, calls⟩ => ?_
  refine ⟨done, shared, by rw [stored, same₂, same₁], ?_⟩
  rw [calls]
  simp
  rfl

/-- The driver that is made has the identity that was read, and is the one that is started. -/
theorem comesTo_takeLead_of_identified (stores : serve.Stores storage) (stored : storage crew = d)
    (called : acts.filterMap Act.call? = before) (unmade : acts.filterMap Act.created? = [])
    (opened : d.slot = .opened) (readable : d.contents.Readable) {id : Option String}
    (identified : d.contents.frameworkId = .ok id) :
    ComesTo serve
      (fun x w => x = some () ∧
        (storage w.crew).contents.tasks = d.contents.backfilled.tasks ∧ ∃ driver,
        w.drivers = [driver] ∧
        w.shared = { Shared.leading acknowledged grant with driver := some driver } ∧
        w.calls = before ++
          [.repairStorage, .readFrameworkId, .createDriver id, .arm .registration, .arm .failover,
            .startDriver driver, .arm (.join driver)])
      takeLead ⟨.leading acknowledged grant, crew, acts⟩ := by
  subst stored called
  refine .log (.askStorage stores rfl (Durable.repair_of_readable opened readable)
    fun crew₁ same₁ => ?_)
  have fetched := Durable.fetch_after_repair opened
  rw [← same₁, identified] at fetched
  refine .askStorage stores rfl fetched fun crew₂ same₂ => ?_
  refine .log (.askOther stores rfl nofun fun driver crew₃ same₃ => .touch rfl ?_)
  refine .askOther stores rfl nofun fun _ crew₄ same₄ => ?_
  refine .askOther stores rfl nofun fun _ crew₅ same₅ => ?_
  refine .bind (.withLock rfl (.touch (x := .leaderAwaitingRegistration) rfl ?_))
  refine .askStart stores fun _ crew₆ same₆ => .log (.done (.touchLast rfl ?_))
  show ComesTo serve _ (Program.ask (.arm (.join driver))) _
  rw [← Program.bind_done (Program.ask _)]
  refine .askOther stores rfl nofun fun _ crew₇ same₇ =>
    ⟨_, _, rfl, rfl, ?_, driver, ?_, rfl, ?_⟩
  · rw [same₇, same₆, same₅, same₄, same₃, same₂, same₁]
    rfl
  · simp [drivers, unmade]
    rfl
  · simp [Alone.calls]
    rfl

/-- Nothing comes between a grant and the work that it calls for. -/
theorem comesTo_lead (grant : Grant) (acknowledged : Bool) (crew : σ) {holds : Alone σ → Prop}
    (stores : serve.Stores storage)
    (h : ∀ crew' acts', storage crew' = storage crew →
      acts'.filterMap Act.call? = [.notice (.installed .leaderAwaitingRegistration)] →
      acts'.filterMap Act.created? = [] →
        ComesTo serve (fun x w => x = some () ∧ holds w) takeLead
          ⟨.leading acknowledged grant, crew', acts'⟩) :
    ComesTo serve
      (fun x w => x = some (.ok ()) ∧ ∃ w₁, holds w₁ ∧ w.shared = w₁.shared.setHeld false .grants ∧
        w.crew = w₁.crew ∧ w.calls = w₁.calls ∧ w.drivers = w₁.drivers)
      (lead grant) ⟨{ state := .storagePrepared, acknowledged }, crew, []⟩ := by
  refine .withLock rfl (.touch (x := none) rfl (.bind ?_))
  refine .touch (x := .ok ⟨.storagePrepared, .leaderAwaitingRegistration, some .takeLead⟩) rfl ?_
  refine .log (.askOther stores rfl nofun fun _ crew₁ same₁ => ?_)
  show ComesTo serve _ ((takeLead >>= fun _ => (pure (.ok ()) : Program Outcome)) >>=
    fun outcome => (pure outcome : Program Outcome)) _
  refine .bind (.bind ((h crew₁ _ same₁ rfl rfl).mono fun x w ⟨done, holds⟩ => ?_))
  subst done
  obtain ⟨s, crew₂, acts⟩ := w
  refine .done (.done (.done (.touchLast rfl ⟨rfl, _, holds, rfl, rfl, ?_, ?_⟩)))
  · simp [Alone.calls]
    rfl
  · simp [drivers, Act.created?]

end Lead

end Lifecycle

/-! ## The crew of a scheduler on its own -/

namespace Standalone.Scheduler

open Lifecycle (Call Crew DriverId Grant)

/-- The collaborators of a scheduler, as a crew. -/
def crew : Crew Scheduler := fun c s =>
  match (answer c).run s with
  | .ok x s => (some x, s)
  | .error _ s => (none, s)

theorem tasks_saveFrameworkId (id : String) (d : Durable) :
    ((Durable.saveFrameworkId id).run d).2.contents.tasks = d.contents.tasks := by
  rw [Durable.saveFrameworkId_run]
  cases d.usable <;> rfl

theorem onControl_run (grant : Grant) (call : Control.Call) (s : Scheduler) :
    ∃ x controls, (onControl grant call).run s = .ok x { s with controls } := by
  cases found : s.controls.lookup grant with
  | none => exact ⟨.ok (), s.controls, by simp [onControl, found]⟩
  | some control =>
    exact ⟨(control.use call).1,
      s.controls.map fun entry => if entry.1 = grant then (grant, (control.use call).2) else entry,
      by simp [onControl, found]⟩

theorem startDriver_run (driver : DriverId) (s : Scheduler) :
    ∃ x s', (startDriver driver).run s = .ok x s' ∧
      s'.storage.contents.tasks = s.storage.contents.tasks := by
  cases started : s.fleet.start driver.index with
  | none => exact ⟨_, _, startDriver_of_unknown started, rfl⟩
  | some result =>
    obtain ⟨status, registered, fleet⟩ := result
    cases registered with
    | none => exact ⟨_, _, startDriver_of_unregistered started, rfl⟩
    | some id =>
      exact ⟨_, _, startDriver_of_registered started, tasks_saveFrameworkId id s.storage⟩

theorem stores : crew.Stores Scheduler.storage where
  own c use s own := by
    cases c <;> cases own <;> exact ⟨rfl, rfl⟩
  answers c s other := by
    cases c with
    | prepareStorage | repairStorage | readFrameworkId | stopStorage => cases other
    | startDriver driver =>
      obtain ⟨x, s', run, -⟩ := startDriver_run driver s
      simp only [crew, answer, run]
      rfl
    | advertise grant =>
      obtain ⟨x, controls, run⟩ := onControl_run grant .advertise s
      simp only [crew, answer, run]
      rfl
    | leave grant =>
      obtain ⟨x, controls, run⟩ := onControl_run grant .leave s
      simp only [crew, answer, run]
      rfl
    | _ => rfl
  other c s other starts := by
    cases c with
    | prepareStorage | repairStorage | readFrameworkId | stopStorage => cases other
    | startDriver driver => exact (starts driver rfl).elim
    | advertise grant =>
      obtain ⟨x, controls, run⟩ := onControl_run grant .advertise s
      simp only [crew, answer, run]
    | leave grant =>
      obtain ⟨x, controls, run⟩ := onControl_run grant .leave s
      simp only [crew, answer, run]
    | arm timer => cases timer <;> rfl
    | _ => rfl
  starts driver s := by
    obtain ⟨x, s', run, same⟩ := startDriver_run driver s
    simp only [crew, answer, run]
    exact same

/-- A scheduler whose store has something for an identity that is no text. -/
def corrupt : Scheduler where
  limits := .default
  storage :=
    { place := .memory
      slot := .opened
      contents := ⟨⟨[(Store.identityKey, [])], by simp⟩, .empty⟩ }
  fleet := { name := "w", stamp := ⟨1, 0⟩ }
  bus := freshBus

end Standalone.Scheduler

namespace Lifecycle

open Alone

variable {σ : Type}

/-! ## A leader and its store -/

/-- Where a replica at rest stands before it leads. -/
theorem Pool.shared_of_prepared {schedule : List Choice} {p : Pool}
    (run : Pool.run Rule.calm schedule = some p) (quiet : p.isQuiet = true)
    (prepared : p.shared.state = .storagePrepared) :
    p.shared = { state := .storagePrepared, acknowledged := p.shared.acknowledged } := by
  obtain ⟨l, G, adequate, reached⟩ := Pool.accounted run
  have rest := adequate.atRest quiet
  rw [← adequate.shared] at prepared ⊢
  have live : G.shared.state ≠ .dead := by simp [prepared]
  have untorn := reached.mortal.teardown_of_live live
  have unled : G.leading = .unbegun := Classical.byContradiction fun begun => by
    have := reached.leading_told.rank_le begun
    simp [prepared, State.rank] at this
  have unaccepted : G.accepted = none := Classical.byContradiction fun accepted => by
    have := reached.rank_of_accepted accepted
    simp [prepared, State.rank] at this
  have slot : G.shared.slot = none := by rw [reached.slot_of_live rest live, unaccepted]
  have driver : G.shared.driver = none := by rw [reached.driver, unled]; rfl
  have grants : G.shared.grantsHeld = false := by rw [reached.grantsHeld, rest.hold]; rfl
  have held : G.shared.driverHeld = false := by rw [reached.gate.held, unled, untorn]; rfl
  have torn : G.shared.tornDown = false :=
    Bool.eq_false_iff.mpr fun torn => reached.mortal.tornDown.mp torn untorn
  generalize G.shared = s at *
  cases s
  simp_all

/-- A replica that leads does so on a store that it can read. If each record and the identity can be
read, the records are repaired, one driver is made with that identity, and this is the driver that
the replica has, that is started once and whose end is waited for. If the
identity cannot be read the records are repaired, and if a record cannot be read nothing is
changed; either way no driver is made and no timer is armed, the grant is left once and the replica
is dead and torn down. -/
theorem leads_on_readable_store {serve : Crew σ} {storage : σ → Durable}
    (stores : serve.Stores storage) {schedule : List Choice} {p : Pool}
    (run : Pool.run Rule.calm schedule = some p) (quiet : p.isQuiet = true)
    (prepared : p.shared.state = .storagePrepared) (grant : Grant) (crew : σ)
    (opened : (storage crew).slot = .opened) :
    ∃ w, Alone.run serve (lead grant) ⟨p.shared, crew, []⟩ = some (some (.ok ()), w) ∧
      (∀ id, (storage crew).contents.Readable → (storage crew).contents.Identifies id →
        (storage w.crew).contents.tasks = (storage crew).contents.backfilled.tasks ∧
        ∃ driver, w.drivers = [driver] ∧
          w.shared =
            { state := .leaderAwaitingRegistration
              acknowledged := p.shared.acknowledged
              slot := some grant
              driver := some driver } ∧
          w.calls = [.notice (.installed .leaderAwaitingRegistration), .repairStorage,
          .readFrameworkId, .createDriver id, .arm .registration, .arm .failover,
          .startDriver driver, .arm (.join driver)]) ∧
      ((storage crew).contents.Readable → (∀ id, ¬ (storage crew).contents.Identifies id) →
        w.shared = { state := .dead, tornDown := true } ∧
        storage w.crew =
          { (storage crew).write (storage crew).contents.backfilled with slot := .stopped } ∧
        w.calls = [.notice (.installed .leaderAwaitingRegistration), .repairStorage,
          .readFrameworkId, .notice (.installed .dead), .leave grant, .stopStorage, .shutdown]) ∧
      (¬ (storage crew).contents.Readable →
        w.shared = { state := .dead, tornDown := true } ∧
        storage w.crew = { storage crew with slot := .stopped } ∧
        w.calls = [.notice (.installed .leaderAwaitingRegistration), .repairStorage,
          .notice (.installed .dead), .leave grant, .stopStorage, .shutdown]) ∧
      (.createDriver none ∈ w.calls →
        (storage crew).contents.scheduler.get? Store.identityKey = none) := by
  rw [Pool.shared_of_prepared run quiet prepared]
  by_cases readable : (storage crew).contents.Readable
  · by_cases identified : ∃ id, (storage crew).contents.Identifies id
    · obtain ⟨id, identified⟩ := identified
      have fetched := Store.frameworkId_of_identifies identified
      obtain ⟨x, w, led, rfl, w₁, ⟨tasks, driver, made, leads, calls⟩, shared, crew', calls',
          made'⟩ :=
        comesTo_lead grant p.shared.acknowledged crew stores
          fun crew' acts' same noticed unmade =>
            comesTo_takeLead_of_identified stores same noticed unmade opened readable fetched
      rw [calls] at calls'
      have same (id' : Option String) (h : (storage crew).contents.Identifies id') : id' = id :=
        Except.ok.inj ((Store.frameworkId_of_identifies h).symm.trans fetched)
      refine ⟨w, led, fun id' _ h => ⟨?_, driver, made'.trans made, ?_, ?_⟩,
        fun _ none => (none id identified).elim, fun h => (h readable).elim, fun created => ?_⟩
      · rw [crew', tasks]
      · rw [shared, leads]
        rfl
      · rw [same id' h]
        exact calls'
      · have unnamed : none = id := by simpa [calls'] using created
        exact Store.absent_of_identifies_none (unnamed ▸ identified)
    · obtain ⟨e, corrupt⟩ := Store.frameworkId_of_corrupt (not_exists.mp identified)
      obtain ⟨x, w, led, rfl, w₁, ⟨dead, stopped, calls⟩, shared, crew', calls', -⟩ :=
        comesTo_lead grant p.shared.acknowledged crew stores
          fun crew' acts' same noticed _ =>
            comesTo_takeLead_of_corrupt stores same noticed opened readable corrupt
      rw [calls] at calls'
      refine ⟨w, led, fun id _ h => (identified ⟨id, h⟩).elim, fun _ _ => ⟨?_, ?_, calls'⟩,
        fun h => (h readable).elim, fun created => ?_⟩
      · rw [shared, dead]
        rfl
      · rw [crew', stopped]
      · simp [calls'] at created
  · obtain ⟨x, w, led, rfl, w₁, ⟨dead, stopped, calls⟩, shared, crew', calls', -⟩ :=
      comesTo_lead grant p.shared.acknowledged crew stores
        fun crew' acts' same noticed _ =>
          comesTo_takeLead_of_not_readable stores same noticed opened readable
    rw [calls] at calls'
    refine ⟨w, led, fun id h => (readable h).elim, fun h => (readable h).elim,
      fun _ => ⟨?_, ?_, calls'⟩, fun created => ?_⟩
    · rw [shared, dead]
      rfl
    · rw [crew', stopped]
    · simp [calls'] at created

/-- An identity that is no text is not taken for none. -/
theorem leads_on_readable_store_of_corrupt :
    ∃ p, p ∈ Pool.run Rule.calm (Choice.prepares 0) ∧ p.isQuiet = true ∧
      p.shared.state = .storagePrepared ∧
      ∃ w, Alone.run Standalone.Scheduler.crew (lead ⟨"a"⟩)
          ⟨p.shared, Standalone.Scheduler.corrupt, []⟩ = some (some (.ok ()), w) ∧
        w.shared.state = .dead ∧ ∀ id, .createDriver id ∉ w.calls := by
  have ends : ∃ p, p ∈ Pool.run Rule.calm (Choice.prepares 0) ∧ p.isQuiet = true ∧
      p.shared.state = .storagePrepared := by
    decide +kernel
  obtain ⟨p, run, quiet, prepared⟩ := ends
  have readable : Standalone.Scheduler.corrupt.storage.contents.Readable := nofun
  have corrupt : ∀ id, ¬ Standalone.Scheduler.corrupt.storage.contents.Identifies id :=
    fun _ ⟨_, decoded, _⟩ => by cases decoded
  obtain ⟨w, led, -, dies, -, -⟩ :=
    leads_on_readable_store Standalone.Scheduler.stores run quiet prepared ⟨"a"⟩
      Standalone.Scheduler.corrupt rfl
  obtain ⟨dead, -, calls⟩ := dies readable corrupt
  exact ⟨p, run, quiet, prepared, w, led, by rw [dead],
    fun id created => by simp [calls] at created⟩

end Lifecycle
end Tenure
