import Tenure.Proofs.Provenance
import Tenure.Proofs.Safekeeping

/-!
# A lifetime keeps the identity that it finds

A lifetime makes one driver at most. How far it has come with it says what the store has: what the
driver is to resume, until the driver has registered, and then the identity of the driver. A driver
that resumes an identity registers under it, so what is saved is no other.
-/
namespace Tenure.Lifecycle

open Standalone (Driver Errand Fleet Scheduler)

variable {e e' : Errand}

/-! ## How far a lifetime has come with its driver -/

inductive Stage where
  | unmade
  /-- A driver was made, to resume this identity if there is one. -/
  | made (resumed : Option String)
  /-- The driver runs, and has an identity to be kept. -/
  | launched (resumed : Option String) (id : String)
  | kept (id : String)

namespace Stage

def Drives : Stage → List Driver → Prop
  | unmade, drivers => drivers = []
  | made resumed, drivers => ∃ status, drivers = [⟨resumed, status⟩]
  | launched _ _, drivers | kept _, drivers =>
    ∃ driver : Driver, drivers = [driver] ∧ driver.status ≠ .notStarted

def Stores : Stage → Durable → Prop
  | unmade, _ => True
  | made resumed, d => d.Reads resumed
  | launched resumed id, d => d.Reads resumed ∧ ∀ known, resumed = some known → id = known
  | kept id, d => d.Ready ∧ d.Holds id

/-- The driver runs under an identity. -/
inductive Runs : Stage → String → Prop where
  | launched (resumed : Option String) (id : String) : Runs (launched resumed id) id
  | kept (id : String) : Runs (kept id) id

/-- Which errands may be under way. -/
def Admits (stage : Stage) (d : Durable) : Errand → Prop
  | .repairing | .reading => d.Ready
  | .registering _ id | .saving _ id => stage.Runs id
  | .announcing _ id => stage = kept id
  | _ => True

variable {stage stage' : Stage} {d d' : Durable} {e : Errand} {drivers : List Driver}
  {id id' : String}

theorem Runs.ne_unmade (h : stage.Runs id) : stage ≠ unmade := by cases h <;> nofun

theorem Drives.stop (h : stage.Drives drivers) (i : Nat) :
    stage.Drives (drivers.modify i Driver.stop) := by
  cases stage with
  | unmade =>
    obtain rfl : drivers = [] := h
    cases i <;> rfl
  | made resumed =>
    obtain ⟨status, rfl⟩ := h
    cases i with
    | zero => exact ⟨.stopped, rfl⟩
    | succ => exact ⟨status, by simp⟩
  | launched | kept =>
    obtain ⟨driver, rfl, started⟩ := h
    cases i with
    | zero => exact ⟨driver.stop, rfl, nofun⟩
    | succ => exact ⟨driver, by simp, started⟩

/-- A driver that was not started is the one that was made, and it has not registered. -/
theorem Drives.of_notStarted (h : stage.Drives drivers) {n : Nat} {resumed : Option String}
    (found : drivers[n]? = some ⟨resumed, .notStarted⟩) :
    stage = made resumed ∧ n = 0 ∧ drivers = [⟨resumed, .notStarted⟩] := by
  cases stage with
  | unmade =>
    obtain rfl : drivers = [] := h
    cases found
  | made =>
    obtain ⟨status, rfl⟩ := h
    rw [List.getElem?_singleton] at found
    split at found <;> cases found
    exact ⟨rfl, ‹_›, rfl⟩
  | launched | kept =>
    obtain ⟨driver, rfl, started⟩ := h
    rw [List.getElem?_singleton] at found
    split at found <;> cases found
    exact (started rfl).elim

theorem Stores.ready_of_runs (h : stage.Stores d) (runs : stage.Runs id) : d.Ready := by
  cases runs with
  | launched => exact h.1.ready
  | kept => exact h.1

/-- A driver runs under the identity that the store has, if there is one. -/
theorem Stores.eq_of_runs (h : stage.Stores d) (runs : stage.Runs id) (held : d.Holds id') :
    id = id' := by
  cases runs with
  | launched => exact h.2 id' (h.1.eq_some held)
  | kept => exact h.2.unique held

theorem Stores.later (h : stage.Stores d) (later : d.Later d') (disk : d.place ≠ .memory) :
    stage.Stores d' := by
  cases stage with
  | unmade => trivial
  | made => exact later.reads h
  | launched => exact ⟨later.reads h.1, h.2⟩
  | kept id => exact ⟨later.ready h.1, later.keeps disk id h.2⟩

theorem Admits.later (h : stage.Admits d e) (later : d.Later d') : stage.Admits d' e := by
  cases e with
  | repairing | reading => exact later.ready h
  | _ => exact h

/-- Before a driver registers, what goes on has nothing to do with how far that has come. -/
theorem Admits.of_unregistered (h : stage.Admits d e) (before : ∀ id, ¬ stage.Runs id) :
    stage'.Admits d e := by
  cases e with
  | registering _ id | saving _ id => exact (before id h).elim
  | announcing _ id => exact (before id (h ▸ .kept id)).elim
  | _ => exact h

theorem Admits.kept (h : stage.Admits d e) (runs : stage.Runs id) (ready : d'.Ready) :
    (Stage.kept id).Admits d' e := by
  cases e with
  | repairing | reading => exact ready
  | registering | saving => cases runs <;> cases h <;> exact .kept _
  | announcing =>
    cases runs with
    | launched => cases h
    | kept => exact h
  | _ => trivial

theorem admits_of_isApart (h : isApart e = true) : stage.Admits d e := by
  cases e with
  | repairing | reading | registering | saving | announcing => cases h
  | _ => trivial

end Stage

/-! ## What a life upholds -/

/-- What is true of a storage just after a deed. -/
def Deed.Sound : Deed → Durable → Prop
  | created id, d => d.Reads id
  | registered _, _ => True
  | saved id result, d => result = .ok () ∧ d.Holds id
  | announced id, d => d.Holds id

namespace Life

variable {w w' : Life} {stage : Stage} {d : Durable} {i : Nat}

/-- The storage is a file, which has what an open storage works on, and only the replica has the
storage stopped. -/
structure Orderly (w : Life) : Prop where
  inStep : w.InStep
  disk : w.scheduler.storage.place ≠ .memory
  ready : w.scheduler.storage.slot = .opened → w.scheduler.storage.Ready
  halts : w.scheduler.storage.slot = .stopped → .stopStorage ∈ w.pool.trace.calls

/-- The storage, the drivers and what is under way fit how far the lifetime has come. -/
structure Upholds (stage : Stage) (w : Life) : Prop extends w.Orderly where
  admits : ∀ i e, w.errands i = some e → stage.Admits w.scheduler.storage e
  read : ∀ x, w.Heard .readFrameworkId (.ok x) → stage = .unmade → w.scheduler.storage.Reads x
  made : (∃ id driver, w.Heard (.createDriver id) driver) ↔ stage ≠ .unmade
  drivers : stage.Drives w.scheduler.fleet.drivers
  store : stage.Stores w.scheduler.storage

/-- What was done so far was sound, and no identity was lost since the storage was `d`. -/
structure Faithful (d : Durable) (w : Life) : Prop where
  kept : d.Keeps w.scheduler.storage
  sound : ∀ entry ∈ w.deeds, entry.1.Sound entry.2
  since : ∀ entry ∈ w.deeds, d.Keeps entry.2
  lasts : ∀ entry ∈ w.deeds, entry.2.Keeps w.scheduler.storage

theorem Faithful.start {scheduler : Scheduler} (kept : d.Keeps scheduler.storage) :
    Faithful d { scheduler } := ⟨kept, by simp, by simp, by simp⟩

theorem Faithful.move (h : w.Faithful d) (moved : w.Moved w') : w'.Faithful d where
  kept := moved.storage ▸ h.kept
  sound := moved.deeds ▸ h.sound
  since := moved.deeds ▸ h.since
  lasts := moved.storage ▸ moved.deeds ▸ h.lasts

theorem Faithful.serve (h : w.Faithful d) (served : w.Served i e e' w')
    (keeps : w.scheduler.storage.Keeps w'.scheduler.storage)
    (sound : ∀ deed, deed? w.scheduler e = some deed → deed.Sound w'.scheduler.storage) :
    w'.Faithful d := by
  have kept : d.Keeps w'.scheduler.storage := fun id held => keeps id (h.kept id held)
  have cases {entry : Deed × Durable} (mem : entry ∈ w'.deeds) : entry ∈ w.deeds ∨
      deed? w.scheduler e = some entry.1 ∧ entry.2 = w'.scheduler.storage := by
    rw [served.deeds, List.mem_append] at mem
    refine mem.imp_right fun new => ?_
    obtain ⟨deed, done, rfl⟩ := Option.map_eq_some_iff.mp (Option.mem_toList.mp new)
    exact ⟨done, rfl⟩
  constructor
  · exact kept
  · intro entry mem
    rcases cases mem with old | ⟨done, eq⟩
    · exact h.sound entry old
    · exact eq ▸ sound entry.1 done
  · intro entry mem
    rcases cases mem with old | ⟨-, eq⟩
    · exact h.since entry old
    · exact eq ▸ kept
  · intro entry mem
    rcases cases mem with old | ⟨-, eq⟩
    · exact fun id held => keeps id (h.lasts entry old id held)
    · exact eq ▸ fun _ => id

namespace Orderly

/-- The task that waits for an errand. -/
theorem waits (h : w.Orderly) (errand : w.errands i = some e) :
    ∃ schedule o task, Pool.run Rule.calm schedule = some w.pool ∧
      w.pool.tasks[i]? = some (o, task) ∧ task.open? = some e.call := by
  obtain ⟨schedule, run⟩ := h.inStep.run
  obtain ⟨o, task, hi, waits⟩ := h.inStep.waits i e errand
  exact ⟨schedule, o, task, run, hi, waits⟩

theorem move (h : w.Orderly) (inStep : w'.InStep) (moved : w.Moved w') : w'.Orderly where
  inStep := inStep
  disk := moved.storage ▸ h.disk
  ready := moved.storage ▸ h.ready
  halts stopped := List.filterMap_subset _ moved.trace (h.halts (moved.storage ▸ stopped))

theorem serve (h : w.Orderly) (served : w.Served i e e' w')
    (place : w'.scheduler.storage.place = w.scheduler.storage.place)
    (ready : w'.scheduler.storage.slot = .opened → w'.scheduler.storage.Ready)
    (halts : w'.scheduler.storage.slot = .stopped →
      w.scheduler.storage.slot = .stopped ∨ e = .begun .stopStorage) : w'.Orderly where
  inStep := h.inStep.serve served
  disk := place ▸ h.disk
  ready := ready
  halts stopped := by
    rw [served.pool]
    rcases halts stopped with before | rfl
    · exact h.halts before
    · obtain ⟨schedule, o, task, run, hi, waits⟩ := h.waits served.errand
      exact Pool.mem_calls_of_open run hi waits

theorem serve_of_eq (h : w.Orderly) (served : w.Served i e e' w')
    (storage : w'.scheduler.storage = w.scheduler.storage) : w'.Orderly :=
  h.serve served (by rw [storage]) (storage ▸ h.ready) (storage ▸ .inl)

end Orderly

namespace Upholds

theorem start {scheduler : Scheduler} (disk : scheduler.storage.place ≠ .memory)
    (closed : scheduler.storage.slot = .closed) (drivers : scheduler.fleet.drivers = []) :
    Upholds .unmade { scheduler } where
  inStep := .start
  disk := disk
  ready opened := by rw [closed] at opened; cases opened
  halts stopped := by rw [closed] at stopped; cases stopped
  admits := nofun
  read x heard := by
    obtain ⟨i, errand | answered⟩ := heard
    · cases errand
    · cases answered
  made := by
    refine ⟨?_, fun absurd => (absurd rfl).elim⟩
    rintro ⟨id, driver, i, errand | answered⟩
    · cases errand
    · cases answered
  drivers := drivers
  store := trivial

theorem move (h : w.Upholds stage) (inStep : w'.InStep) (moved : w.Moved w') :
    w'.Upholds stage where
  toOrderly := h.toOrderly.move inStep moved
  admits i e errand := by
    rw [moved.storage]
    rcases moved.errands i e errand with same | ⟨c, rfl⟩
    · exact h.admits i e same
    · trivial
  read x heard := by
    rw [moved.storage]
    exact h.read x ((moved.heard _ _).mp heard)
  made := by simpa only [moved.heard] using h.made
  drivers := moved.fleet ▸ h.drivers
  store := moved.storage ▸ h.store

/-- After a step of an errand each errand is that one or one from before. -/
theorem admits_serve (h : w.Upholds stage) (served : w.Served i e e' w') {stage' : Stage}
    {d : Durable} (own : stage'.Admits d e')
    (others : ∀ e, stage.Admits w.scheduler.storage e → stage'.Admits d e) (j : Nat) (e'' : Errand)
    (errand : w'.errands j = some e'') : stage'.Admits d e'' := by
  by_cases ji : j = i
  · subst ji
    obtain rfl : e' = e'' := Option.some.inj (served.own.symm.trans errand)
    exact own
  · rw [served.others j ji] at errand
    exact others e'' (h.admits j e'' errand)

/-- A driver that was made stays made. -/
theorem made_serve (h : w.Upholds stage) (served : w.Served i e e' w') {stage' : Stage}
    (made : stage ≠ .unmade) (made' : stage' ≠ .unmade) :
    (∃ id driver, w'.Heard (.createDriver id) driver) ↔ stage' ≠ .unmade := by
  refine ⟨fun _ => made', fun _ => ?_⟩
  obtain ⟨id, driver, heard⟩ := h.made.mpr made
  exact ⟨id, driver, served.heard_iff.mpr (.inl heard)⟩

/-- What does not change how far the lifetime has come. -/
theorem remain (h : w.Upholds stage) (served : w.Served i e e' w')
    (later : w.scheduler.storage.Later w'.scheduler.storage)
    (halts : w'.scheduler.storage.slot = .stopped →
      w.scheduler.storage.slot = .stopped ∨ e = .begun .stopStorage)
    (drivers : w'.scheduler.fleet.drivers = w.scheduler.fleet.drivers ∨
      ∃ i, w'.scheduler.fleet.drivers = w.scheduler.fleet.drivers.modify i Driver.stop)
    (admits : stage.Admits w'.scheduler.storage e')
    (read : ∀ x, e' = .done .readFrameworkId (.ok x) → w'.scheduler.storage.Reads x)
    (unmade : ∀ id driver, e' ≠ .done (.createDriver id) driver) : w'.Upholds stage where
  toOrderly := h.toOrderly.serve served later.place (later.ready_of_opened h.ready) halts
  admits := h.admits_serve served admits fun e admitted => admitted.later later
  read x heard unmade := by
    rcases served.heard_iff.mp heard with before | answer
    · exact later.reads (h.read x before unmade)
    · exact read x answer
  made := by simpa [served.heard_iff, unmade] using h.made
  drivers := by
    rcases drivers with same | ⟨i, stopped⟩
    · exact same ▸ h.drivers
    · exact stopped ▸ h.drivers.stop i
  store := h.store.later later h.disk

/-- What touches neither the storage nor the drivers. -/
theorem rest (h : w.Upholds stage) (served : w.Served i e e' w')
    (storage : w'.scheduler.storage = w.scheduler.storage)
    (fleet : w'.scheduler.fleet = w.scheduler.fleet)
    (admits : stage.Admits w'.scheduler.storage e')
    (read : ∀ x, e' = .done .readFrameworkId (.ok x) → w'.scheduler.storage.Reads x)
    (unmade : ∀ id driver, e' ≠ .done (.createDriver id) driver) : w'.Upholds stage :=
  h.remain served (storage ▸ .same) (storage ▸ .inl) (.inl (fleet ▸ rfl)) admits read unmade

/-- No driver was made before the one that a task has made. -/
theorem unmade_of_create (h : w.Upholds stage) {id : Option String}
    (errand : w.errands i = some (.begun (.createDriver id))) : stage = .unmade := by
  obtain ⟨schedule, o, task, run, hi, waits⟩ := h.waits errand
  refine Classical.byContradiction fun made => ?_
  obtain ⟨id', driver, j, errand' | answered⟩ := h.made.mpr made
  · obtain ⟨-, o', task', -, hj, waits'⟩ := h.waits errand'
    obtain rfl := Pool.eq_of_createDriver run hi hj waits waits'
    cases errand.symm.trans errand'
  · exact (Pool.behind_createDriver run hi waits).2 j id' driver answered

/-- A driver is made to resume the identity that was read. -/
theorem create (h : w.Upholds stage) {id : Option String} {driver : DriverId}
    (served : w.Served i (.begun (.createDriver id)) (.done (.createDriver id) driver) w')
    (storage : w'.scheduler.storage = w.scheduler.storage)
    (drivers : w'.scheduler.fleet.drivers = w.scheduler.fleet.drivers ++ [{ frameworkId := id }]) :
    w'.Upholds (.made id) ∧ w.scheduler.storage.Reads id := by
  obtain rfl := h.unmade_of_create served.errand
  obtain ⟨schedule, o, task, run, hi, waits⟩ := h.waits served.errand
  obtain ⟨⟨j, read⟩, -⟩ := Pool.behind_createDriver run hi waits
  have reads := h.read id ⟨j, .inr read⟩ rfl
  refine ⟨?_, reads⟩
  exact
    { toOrderly := h.toOrderly.serve_of_eq served storage
      admits := by
        rw [storage]
        exact h.admits_serve served trivial fun e admitted => admitted.of_unregistered nofun
      read := nofun
      made := ⟨fun _ => nofun, fun _ => ⟨id, driver, served.heard_iff.mpr (.inr rfl)⟩⟩
      drivers := by
        have none : w.scheduler.fleet.drivers = [] := h.drivers
        rw [drivers, none]
        exact ⟨.notStarted, rfl⟩
      store := storage ▸ reads }

/-- The driver that was made comes to run, under the identity that it resumes, if any. -/
theorem launch (h : w.Upholds stage) {driver : DriverId} {status : DriverStatus} {id : String}
    {fleet : Fleet} (served : w.Served i (.begun (.startDriver driver)) (.registering driver id) w')
    (started : w.scheduler.fleet.start driver.index = some (status, some id, fleet))
    (storage : w'.scheduler.storage = w.scheduler.storage) (drives : w'.scheduler.fleet = fleet) :
    ∃ resumed, w'.Upholds (.launched resumed id) := by
  obtain ⟨resumed, found, named, -, drivers⟩ := Fleet.start_of_some started
  obtain ⟨rfl, zero, only⟩ := h.drivers.of_notStarted found
  refine ⟨resumed, ?_⟩
  exact
    { toOrderly := h.toOrderly.serve_of_eq served storage
      admits := by
        rw [storage]
        exact h.admits_serve served (.launched resumed id) fun e admitted =>
          admitted.of_unregistered nofun
      read := nofun
      made := h.made_serve served nofun nofun
      drivers := by
        rw [drives, drivers, only, zero]
        exact ⟨_, rfl, nofun⟩
      store := by
        rw [storage]
        refine ⟨h.store, ?_⟩
        rintro known rfl
        exact named }

/-- The identity of a driver that runs is kept. It is the one that was in the store, if there was
one. -/
theorem save (h : w.Upholds stage) {driver : DriverId} {id : String}
    (served : w.Served i (.saving driver id) (.announcing driver id) w')
    (saved : w'.scheduler.storage =
      w.scheduler.storage.write (w.scheduler.storage.contents.setFrameworkId id))
    (fleet : w'.scheduler.fleet = w.scheduler.fleet) :
    w'.Upholds (.kept id) ∧ w.scheduler.storage.Keeps w'.scheduler.storage := by
  have runs : stage.Runs id := h.admits i _ served.errand
  have ready : w'.scheduler.storage.Ready := saved ▸ (h.store.ready_of_runs runs).write _
  have holds : w'.scheduler.storage.Holds id := saved ▸ Durable.holds_write ..
  constructor
  · exact
      { toOrderly := h.toOrderly.serve served (saved ▸ rfl) (fun _ => ready) (saved ▸ .inl)
        admits := h.admits_serve served rfl fun e admitted => admitted.kept runs ready
        read := nofun
        made := h.made_serve served runs.ne_unmade nofun
        drivers := by
          rw [fleet]
          cases runs <;> exact h.drivers
        store := ⟨ready, holds⟩ }
  · intro id' held
    exact h.store.eq_of_runs runs held ▸ holds

/-- While a driver is started, the storage is open. -/
theorem usable_of_registering (h : w.Upholds stage) {driver : DriverId} {id : String}
    (errand : w.errands i = some (.registering driver id)) :
    w.scheduler.storage.usable = .ok () := by
  obtain ⟨schedule, o, task, run, hi, waits⟩ := h.waits errand
  have ready := h.store.ready_of_runs (h.admits i _ errand)
  exact ready.usable fun stopped => Pool.behind_startDriver run hi waits (h.halts stopped)

/-- A life goes on upholding what it upholds, and is as faithful as it was. -/
theorem step (h : w.Upholds stage) (faithful : w.Faithful d) {choice : Choice}
    (step : w.step? choice = some w') : ∃ stage', w'.Upholds stage' ∧ w'.Faithful d := by
  obtain ⟨inStep, moved | ⟨i, e, e', served⟩⟩ := h.inStep.step step
  · exact ⟨stage, h.move inStep moved, faithful.move moved⟩
  have ready (repairing : e = .repairing) : w.scheduler.storage.Ready := by
    subst repairing
    exact h.admits i _ served.errand
  have deals := deals_of_step? ready served.step
  generalize next : w'.scheduler = s' at deals
  cases deals with
  | apart later halts drivers silent apart =>
    subst next
    refine ⟨stage, h.remain served later halts drivers (Stage.admits_of_isApart apart) ?_ ?_,
      faithful.serve served (later.keeps h.disk) (by rw [silent]; nofun)⟩
    · rintro x rfl
      cases apart
    · rintro id driver rfl
      cases apart
  | admitted opened silent work =>
    have same : w'.scheduler.storage = w.scheduler.storage := by rw [next]
    refine ⟨stage, h.rest served same (by rw [next]) ?_ ?_ ?_,
      faithful.serve served (.of_eq same) (by rw [silent]; nofun)⟩
    · rw [same]
      obtain rfl | rfl := work <;> exact h.ready opened
    · obtain rfl | rfl := work <;> nofun
    · obtain rfl | rfl := work <;> nofun
  | read =>
    have same : w'.scheduler.storage = w.scheduler.storage := by rw [next]
    refine ⟨stage, h.rest served same (by rw [next]) trivial (fun x answer => ?_) nofun,
      faithful.serve served (.of_eq same) nofun⟩
    simp only [Errand.done.injEq, heq_eq_eq, true_and] at answer
    rw [same]
    exact ⟨h.admits i _ served.errand, Durable.ofStore_eq_ok_iff.mp answer⟩
  | create id driver =>
    have same : w'.scheduler.storage = w.scheduler.storage := by rw [next]
    obtain ⟨upholds, reads⟩ := h.create served same (by rw [next]; rfl)
    refine ⟨_, upholds, faithful.serve served (.of_eq same) ?_⟩
    rintro deed ⟨⟩
    exact same ▸ reads
  | launch started =>
    have same : w'.scheduler.storage = w.scheduler.storage := by rw [next]
    obtain ⟨resumed, upholds⟩ := h.launch served started same (by rw [next])
    refine ⟨_, upholds, faithful.serve served (.of_eq same) fun deed done => ?_⟩
    simp only [deed?, started] at done
    cases done
    trivial
  | permit driver id =>
    have same : w'.scheduler.storage = w.scheduler.storage := by rw [next]
    have usable := h.usable_of_registering served.errand
    exact ⟨stage, h.rest served same (by rw [next]) (h.admits i _ served.errand)
      (fun _ answer => by cases answer) (fun _ _ made => by cases made),
      faithful.serve served (.of_eq same) (by simp [deed?, usable])⟩
  | refuse refused =>
    rw [h.usable_of_registering served.errand] at refused
    cases refused
  | save driver id =>
    obtain ⟨upholds, keeps⟩ := h.save served (by rw [next]; rfl) (by rw [next]; rfl)
    refine ⟨_, upholds, faithful.serve served keeps ?_⟩
    rintro deed ⟨⟩
    exact ⟨rfl, upholds.store.2⟩
  | announce driver id =>
    have same : w'.scheduler.storage = w.scheduler.storage := by rw [next]
    obtain rfl : stage = .kept id := h.admits i _ served.errand
    refine ⟨_, h.rest served same (by rw [next]) trivial (fun _ answer => by cases answer)
      (fun _ _ made => by cases made),
      faithful.serve served (.of_eq same) ?_⟩
    rintro deed ⟨⟩
    exact same ▸ h.store.2

theorem follow (h : w.Upholds stage) (faithful : w.Faithful d) {schedule : List Choice}
    (follow : w.follow? schedule = some w') : ∃ stage', w'.Upholds stage' ∧ w'.Faithful d :=
  follow_induction (motive := fun w => ∃ stage, w.Upholds stage ∧ w.Faithful d)
    (fun _ _ _ ⟨_, h, faithful⟩ step => h.step faithful step) ⟨stage, h, faithful⟩ follow

end Upholds

end Life

end Tenure.Lifecycle
