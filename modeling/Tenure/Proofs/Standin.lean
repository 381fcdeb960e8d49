import Tenure.Proofs.Spelling
import Tenure.Storage.Durable
import Tenure.Storage.Volatile

/-!
# A storage without a store stands in for one

Whoever asks a storage of this kind and a scheduler's storage in memory for the same, one call after
the other, is answered the same, and so is every work that the calls bring: it is handed the same
identities, and finds nothing to repair. What keeps the two in step is one relation between their
states, which each call and each step of a work preserves. They part only where a storage that has
been stopped is to be prepared.
-/
namespace Tenure

/-! ## Computations in step -/

section Alike

variable {σ τ α β : Type} {R : σ → τ → Prop}

/-- From related states two computations come to the same result and to related states. -/
def Alike (R : σ → τ → Prop) (m : StateM σ α) (n : StateM τ α) : Prop :=
  ∀ s t, R s t → (m.run s).1 = (n.run t).1 ∧ R (m.run s).2 (n.run t).2

namespace Alike

theorem pure (a : α) : Alike R (Pure.pure a) (Pure.pure a) := fun _ _ related => ⟨rfl, related⟩

theorem bind {m : StateM σ α} {n : StateM τ α} {f : α → StateM σ β} {g : α → StateM τ β}
    (first : Alike R m n) (next : ∀ a, Alike R (f a) (g a)) : Alike R (m >>= f) (n >>= g) := by
  intro s t related
  obtain ⟨same, related⟩ := first s t related
  show ((f (m.run s).1).run (m.run s).2).1 = ((g (n.run t).1).run (n.run t).2).1 ∧
    R ((f (m.run s).1).run (m.run s).2).2 ((g (n.run t).1).run (n.run t).2).2
  rw [same]
  exact next _ _ _ related

end Alike

end Alike

namespace Storage

/-! ## What is asked of a storage -/

/-- What a work is handed at one of its steps. -/
inductive Handed where
  | fetched (result : Except StorageError (Option String))
  | saved (result : Except StorageError Unit)
  | repaired (result : Except StorageError Nat)

/-- A work that keeps in mind what it is handed, the latest first. -/
def recording {α : Type} (handed : List Handed) :
    Work α → Work (List Handed × Except StorageError α)
  | .done result => .done (.ok (handed.reverse, result))
  | .fetch next => .fetch fun result => recording (.fetched result :: handed) (next result)
  | .save id next => .save id fun result => recording (.saved result :: handed) (next result)
  | .backfill next => .backfill fun result => recording (.repaired result :: handed) (next result)

/-- A call of a storage, with the work that it is to do. -/
inductive Ask where
  | prepare
  | start (work : Work Unit)
  | read (work : Work Unit)
  | stop

/-- What a call comes to: its result, and what its work was handed if it was admitted. -/
structure Reply where
  handed : Option (List Handed)
  result : Except StorageError Unit

def Reply.ofRecorded : Except StorageError (List Handed × Except StorageError Unit) → Reply
  | .ok (handed, result) => ⟨some handed, result⟩
  | .error e => ⟨none, .error e⟩

variable {σ τ α : Type}

def call (storage : Storage σ) : Ask → StateM σ (Except StorageError Unit)
  | .prepare => storage.prepare
  | .start work => storage.start work
  | .read work => storage.read work
  | .stop => storage.stop

def calls (storage : Storage σ) : List Ask → StateM σ (List (Except StorageError Unit))
  | [] => return []
  | ask :: rest => do
    let first ← storage.call ask
    return first :: (← storage.calls rest)

/-- A call, with its work recorded. -/
def reply (storage : Storage σ) : Ask → StateM σ Reply
  | .prepare => return ⟨none, ← storage.prepare⟩
  | .start work => return .ofRecorded (← storage.start (recording [] work))
  | .read work => return .ofRecorded (← storage.read (recording [] work))
  | .stop => return ⟨none, ← storage.stop⟩

def replies (storage : Storage σ) : List Ask → StateM σ (List Reply)
  | [] => return []
  | ask :: rest => do
    let first ← storage.reply ask
    return first :: (← storage.replies rest)

/-- A work that is recorded comes to what it would come to otherwise. -/
theorem run_recording (storage : Storage σ) (handed : List Handed) (work : Work α) (s : σ) :
    ∃ all, (storage.run (recording handed work)).run s =
      (.ok (all, ((storage.run work).run s).1), ((storage.run work).run s).2) := by
  induction work generalizing handed s with
  | done result => exact ⟨_, rfl⟩
  | fetch next ih => exact ih _ _ _
  | save id next ih => exact ih _ _ _
  | backfill next ih => exact ih _ _ _

/-- The result in a reply is that of the call, which does the same to the storage. -/
theorem call_run (storage : Storage σ) (ask : Ask) (s : σ) :
    (storage.call ask).run s =
      (((storage.reply ask).run s).1.result, ((storage.reply ask).run s).2) := by
  symm
  have recorded (work : Work Unit) (s : σ) :
      ((Reply.ofRecorded ((storage.run (recording [] work)).run s).1).result,
        ((storage.run (recording [] work)).run s).2) = (storage.run work).run s := by
    obtain ⟨all, eq⟩ := storage.run_recording [] work s
    rw [eq]
    rfl
  cases ask with
  | prepare | stop => rfl
  | start work =>
    show ((Reply.ofRecorded ((storage.start _).run s).1).result, ((storage.start _).run s).2) =
      (storage.start work).run s
    rw [start_run, start_run]
    rcases storage.permit.run s with ⟨_ | _, s'⟩
    · rfl
    · exact recorded work s'
  | read work =>
    show ((Reply.ofRecorded ((storage.read _).run s).1).result, ((storage.read _).run s).2) =
      (storage.read work).run s
    rw [read_run, read_run]
    rcases storage.permitRead.run s with ⟨_ | _, s'⟩
    · rfl
    · exact recorded work s'

theorem calls_run (storage : Storage σ) (asks : List Ask) (s : σ) :
    ((storage.calls asks).run s).1 = ((storage.replies asks).run s).1.map Reply.result := by
  induction asks generalizing s with
  | nil => rfl
  | cons ask rest ih =>
    show ((storage.call ask).run s).1 :: ((storage.calls rest).run ((storage.call ask).run s).2).1 =
      _
    rw [call_run, ih]
    rfl

/-! ## Works in step -/

/-- Storages that are in step where a work uses them are in step through the work. -/
theorem alike_run {R : σ → τ → Prop} {a : Storage σ} {b : Storage τ}
    (fetch : Alike R a.fetch b.fetch) (save : ∀ id, Alike R (a.save id) (b.save id))
    (backfill : Alike R a.backfill b.backfill) (work : Work α) :
    Alike R (a.run work) (b.run work) := by
  induction work with
  | done result => exact .pure result
  | fetch next ih => exact fetch.bind ih
  | save id next ih => exact (save id).bind ih
  | backfill next ih => exact backfill.bind ih

end Storage

open Storage (Ask Reply)

/-! ## The two storages -/

/-- A storage without a store is where a scheduler's storage in memory is: as far in its life, with
the same identity and no records. -/
structure StandsFor (v : Volatile) (d : Durable) : Prop where
  sturdy : v.failures = {}
  inMemory : d.place = .memory
  slot : d.slot = if v.stopped then .stopped else if v.prepared then .opened else .closed
  identity : d.contents.frameworkId = .ok v.frameworkId
  bare : d.contents.tasks = .empty
  fresh : d.slot = .closed → v.frameworkId = none

/-- It has been prepared, too, and not been stopped. -/
def WorksFor (v : Volatile) (d : Durable) : Prop := StandsFor v d ∧ d.slot = .opened

theorem StandsFor.usable {v : Volatile} {d : Durable} (stands : StandsFor v d) :
    v.usable = d.usable := by
  rw [Volatile.usable, Durable.usable, stands.slot]
  cases v.stopped <;> cases v.prepared <;> rfl

theorem Store.backfill_of_bare {s : Store} (bare : s.tasks = .empty) : s.backfill = .ok (0, s) := by
  obtain ⟨_, _⟩ := s
  cases bare
  rfl

/-! ## Works -/

theorem alike_fetch : Alike WorksFor Volatile.storage.fetch Durable.storage.fetch := by
  intro v d works
  refine ⟨?_, works⟩
  show .ok v.frameworkId = Durable.ofStore d.contents.frameworkId
  rw [works.1.identity]
  rfl

theorem alike_save (id : String) :
    Alike WorksFor (Volatile.storage.save id) (Durable.storage.save id) := by
  rintro v d ⟨stands, opened⟩
  have identity := d.contents.frameworkId_setFrameworkId id
  have closed : d.slot ≠ .closed := by simp [opened]
  exact ⟨rfl, { stands with identity, fresh := fun slot => absurd slot closed }, opened⟩

theorem alike_backfill : Alike WorksFor Volatile.storage.backfill Durable.storage.backfill := by
  rintro v d ⟨stands, opened⟩
  rw [Durable.backfill_run, Store.backfill_of_bare stands.bare]
  exact ⟨rfl, { stands with }, opened⟩

theorem alike_work {α : Type} (work : Work α) :
    Alike WorksFor (Volatile.storage.run work) (Durable.storage.run work) :=
  Storage.alike_run alike_fetch alike_save alike_backfill work

/-! ## Calls -/

section Calls

variable {α : Type} {v : Volatile} {d : Durable}

theorem StandsFor.prepare (stands : StandsFor v d) (running : v.stopped = false) :
    (Volatile.storage.prepare.run v).1 = (Durable.storage.prepare.run d).1 ∧
      StandsFor (Volatile.storage.prepare.run v).2 (Durable.storage.prepare.run d).2 := by
  rw [Volatile.prepare_run stands.sturdy, Durable.prepare_run]
  have slot := stands.slot
  rw [running] at slot
  cases prepared : v.prepared with
  | true =>
    rw [prepared] at slot
    rw [show d.slot = .opened from slot]
    exact ⟨rfl, { stands with slot := by simpa [running] using slot }⟩
  | false =>
    rw [prepared] at slot
    have closed : d.slot = .closed := slot
    have opening : d.opening = .ok .empty := by rw [Durable.opening, stands.inMemory]
    have identity : Store.empty.frameworkId = .ok v.frameworkId := by
      rw [stands.fresh closed]
      rfl
    rw [closed, opening]
    exact ⟨rfl, {
      sturdy := stands.sturdy
      inMemory := stands.inMemory
      slot := by simp [Durable.write, running]
      identity
      bare := rfl
      fresh := nofun }⟩

theorem StandsFor.stop (stands : StandsFor v d) :
    (Volatile.storage.stop.run v).1 = (Durable.storage.stop.run d).1 ∧
      StandsFor (Volatile.storage.stop.run v).2 (Durable.storage.stop.run d).2 := by
  rw [Volatile.stop_run stands.sturdy]
  exact ⟨rfl, { stands with slot := rfl, fresh := nofun }⟩

theorem StandsFor.start (work : Work α) (stands : StandsFor v d) :
    ((Volatile.storage.start work).run v).1 = ((Durable.storage.start work).run d).1 ∧
      StandsFor ((Volatile.storage.start work).run v).2 ((Durable.storage.start work).run d).2 := by
  rw [Volatile.start_run stands.sturdy, Durable.start_run, stands.usable]
  cases usable : d.usable with
  | error e => exact ⟨rfl, { stands with }⟩
  | ok =>
    have works : WorksFor { v with starts := v.starts + 1 } d :=
      ⟨{ stands with }, Durable.slot_of_usable usable⟩
    obtain ⟨same, after⟩ := alike_work work _ _ works
    exact ⟨same, after.1⟩

theorem StandsFor.read (work : Work α) (stands : StandsFor v d) :
    ((Volatile.storage.read work).run v).1 = ((Durable.storage.read work).run d).1 ∧
      StandsFor ((Volatile.storage.read work).run v).2 ((Durable.storage.read work).run d).2 := by
  rw [Volatile.read_run, Durable.read_run, stands.usable]
  cases usable : d.usable with
  | error e => exact ⟨rfl, stands⟩
  | ok =>
    obtain ⟨same, after⟩ := alike_work work _ _ ⟨stands, Durable.slot_of_usable usable⟩
    exact ⟨same, after.1⟩

theorem StandsFor.reply (stands : StandsFor v d) (ask : Ask)
    (ready : ask = .prepare → v.stopped = false) :
    ((Volatile.storage.reply ask).run v).1 = ((Durable.storage.reply ask).run d).1 ∧
      StandsFor ((Volatile.storage.reply ask).run v).2 ((Durable.storage.reply ask).run d).2 := by
  cases ask with
  | prepare =>
    obtain ⟨same, after⟩ := stands.prepare (ready rfl)
    exact ⟨congrArg (Reply.mk none) same, after⟩
  | start work =>
    obtain ⟨same, after⟩ := stands.start (Storage.recording [] work)
    exact ⟨congrArg Reply.ofRecorded same, after⟩
  | read work =>
    obtain ⟨same, after⟩ := stands.read (Storage.recording [] work)
    exact ⟨congrArg Reply.ofRecorded same, after⟩
  | stop =>
    obtain ⟨same, after⟩ := stands.stop
    exact ⟨congrArg (Reply.mk none) same, after⟩

/-- No work stops a storage. -/
theorem Volatile.stopped_run (work : Work α) (v : Volatile) :
    ((storage.run work).run v).2.stopped = v.stopped := by
  induction work generalizing v with
  | done result => rfl
  | fetch next ih => exact ih _ v
  | save id next ih => exact ih _ { v with frameworkId := some id }
  | backfill next ih => exact ih _ { v with backfills := v.backfills + 1 }

theorem Volatile.stopped_start (sturdy : v.failures = {}) (work : Work α) :
    ((storage.start work).run v).2.stopped = v.stopped := by
  rw [start_run sturdy]
  cases v.usable with
  | error e => rfl
  | ok => exact stopped_run work { v with starts := v.starts + 1 }

theorem Volatile.stopped_read (work : Work α) :
    ((storage.read work).run v).2.stopped = v.stopped := by
  rw [read_run]
  cases v.usable with
  | error e => rfl
  | ok => exact stopped_run work v

/-- A storage that has been stopped was stopped by a call to stop it. -/
theorem Volatile.stopped_of_reply (sturdy : v.failures = {}) {ask : Ask}
    (stopped : ((storage.reply ask).run v).2.stopped = true) : v.stopped = true ∨ ask = .stop := by
  cases ask with
  | prepare =>
    have after : (storage.prepare.run v).2.stopped = true := stopped
    rw [prepare_run sturdy] at after
    exact .inl after
  | start work => exact .inl ((stopped_start sturdy _).symm.trans stopped)
  | read work => exact .inl ((stopped_read _).symm.trans stopped)
  | stop => exact .inr rfl

/-! ## Any number of calls -/

/-- Nobody prepares a storage after it was stopped. -/
def Orderly (asks : List Ask) : Prop :=
  asks.Pairwise fun earlier later => earlier = .stop → later ≠ .prepare

theorem StandsFor.replies {asks : List Ask} (stands : StandsFor v d) (orderly : Orderly asks)
    (ready : v.stopped = true → .prepare ∉ asks) :
    ((Volatile.storage.replies asks).run v).1 = ((Durable.storage.replies asks).run d).1 := by
  induction asks generalizing v d with
  | nil => rfl
  | cons ask rest ih =>
    obtain ⟨first, orderly⟩ := List.pairwise_cons.mp orderly
    have now : ask = .prepare → v.stopped = false := by
      rintro rfl
      by_contra stopped
      exact ready (by simpa using stopped) List.mem_cons_self
    obtain ⟨same, after⟩ := stands.reply ask now
    have later := ih after orderly fun stopped => by
      rcases Volatile.stopped_of_reply stands.sturdy stopped with before | stops
      · exact fun mem => ready before (List.mem_cons_of_mem _ mem)
      · exact fun mem => first _ mem stops rfl
    exact congrArg₂ List.cons same later

end Calls

/-- A storage without a store answers any calls as a scheduler's storage in memory does, if none of
them prepares it after it was stopped: each call has the same result, and its work is admitted by
both or by neither and handed the same. -/
theorem replies_in_memory {asks : List Ask} (orderly : Orderly asks) :
    ((Volatile.storage.calls asks).run {}).1 = ((Durable.storage.calls asks).run .inMemory).1 ∧
    ((Volatile.storage.replies asks).run {}).1 =
      ((Durable.storage.replies asks).run .inMemory).1 := by
  have stands : StandsFor {} .inMemory := ⟨rfl, rfl, rfl, rfl, rfl, fun _ => rfl⟩
  have same := stands.replies orderly nofun
  exact ⟨by rw [Storage.calls_run, Storage.calls_run, same], same⟩

/-- Only one of them can be prepared after it was stopped. -/
example : ((Volatile.storage.calls [.stop, .prepare]).run {}).1 = [.ok (), .ok ()] ∧
    ((Durable.storage.calls [.stop, .prepare]).run .inMemory).1 = [.ok (), .error .stopped] :=
  ⟨rfl, rfl⟩

namespace Storage.Ask

/-- A work keeps an identity, looks at it and fails. -/
def failing (id : String) : Ask :=
  .start (.save id fun _ => .backfill fun _ => .fetch fun _ => .done (.error (.backend "halfway")))

def fetching : Ask := .read (.fetch fun id => .done (id.map fun _ => ()))

/-- A storage is used too early, then for its life, and then too late. -/
def untimely : List Ask :=
  [fetching, .prepare, fetching, failing "é\"", .prepare, fetching, .stop, .stop, failing "b"]

end Storage.Ask

theorem replies_in_memory_of_untimely :
    Orderly Ask.untimely ∧
    ((Durable.storage.replies Ask.untimely).run .inMemory).1 =
      [⟨none, .error .notPrepared⟩, ⟨none, .ok ()⟩, ⟨some [.fetched (.ok none)], .ok ()⟩,
        ⟨some [.saved (.ok ()), .repaired (.ok 0), .fetched (.ok (some "é\""))],
          .error (.backend "halfway")⟩,
        ⟨none, .ok ()⟩, ⟨some [.fetched (.ok (some "é\""))], .ok ()⟩, ⟨none, .ok ()⟩,
        ⟨none, .ok ()⟩, ⟨none, .error .stopped⟩] := by
  have orderly : Orderly Ask.untimely := by
    simp [Orderly, Ask.untimely, Ask.failing, Ask.fetching]
  exact ⟨orderly, (replies_in_memory orderly).2.symm.trans rfl⟩

end Tenure
