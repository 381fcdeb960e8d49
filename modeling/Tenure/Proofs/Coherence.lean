import Tenure.Proofs.Restoration

/-!
# Records that do not contradict themselves

What a record says of its job it may say twice, in fields of its own and in the job key. A repair
supplies the environment before the job key, and never looks for the one in the other: a record
without an environment gets the default one, even where its job key names another. That is the only
contradiction that a repair can bring about. A store to which no record is put that would end so
holds none at any time, and after a repair all its records are complete and say the same twice.
-/
namespace Tenure

/-! ## One record -/

namespace Record

variable {r : Record}

/-- The fields that are present do not contradict each other. -/
def Agrees (r : Record) : Prop :=
  ∀ job ∈ r.jobKey, job.role = r.role ∧ job.name = r.jobName ∧
    ∀ e ∈ r.environment, job.environment = e

/-- The environment is missing, and the job key has one that is not the default. -/
def Strays (r : Record) : Prop :=
  r.environment = none ∧ ∃ job ∈ r.jobKey, job.environment ≠ defaultEnvironment

/-- Where the fields agree, only the environment of the job key can be another than that of the
record. -/
theorem Agrees.eq_iff {job : JobKey} (agrees : r.Agrees) (key : r.jobKey = some job) (e : String) :
    job = ⟨r.role, e, r.jobName⟩ ↔ job.environment = e := by
  obtain ⟨role, name, -⟩ := agrees job key
  rw [← role, ← name]
  exact ⟨congrArg JobKey.environment, fun same => same ▸ rfl⟩

/-- After a repair a record says the same twice, unless it strays. -/
theorem Agrees.jobKey_backfill (agrees : r.Agrees) :
    r.backfill.jobKey = some ⟨r.role, r.environment.getD defaultEnvironment, r.jobName⟩ ↔
      ¬ r.Strays := by
  cases key : r.jobKey with
  | none => simp [backfill, Strays, key]
  | some job =>
    rw [backfill, key, Option.getD_some, Option.some_inj, agrees.eq_iff key]
    cases named : r.environment with
    | none => simp [Strays, named, key]
    | some e => simp [Strays, named, (agrees job key).2.2 e named]

/-- A repair completes a record and changes nothing that it had. If the fields agreed, the job key
has the role and the name of the record afterwards, and its environment too, unless the record had
none and its job key had another than the default. -/
theorem backfill_agrees (agrees : r.Agrees) :
    ∃ e job, r.backfill = { r with environment := some e, jobKey := some job } ∧
      (∀ named ∈ r.environment, e = named) ∧ (r.environment = none → e = defaultEnvironment) ∧
      (∀ present ∈ r.jobKey, job = present) ∧ job.role = r.role ∧ job.name = r.jobName ∧
      (job = ⟨r.role, e, r.jobName⟩ ↔ ¬ r.Strays) := by
  refine ⟨_, _, rfl, fun named given => by simp [Option.mem_def.mp given],
    fun missing => by simp [missing], fun present given => by simp [Option.mem_def.mp given],
    ?_, ?_, Option.some_inj.symm.trans agrees.jobKey_backfill⟩
  all_goals
    cases key : r.jobKey with
    | none => rfl
    | some job => simp [agrees job key]

/-- A task of a job that is named, with its environment. -/
def unkeyed : Record := ⟨"t", "www", "web", some "prod", none, .running, 1⟩

/-- The job key is made of what is there. -/
theorem backfill_agrees_unkeyed :
    unkeyed.Agrees ∧ unkeyed.backfill.jobKey = some ⟨"www", "prod", "web"⟩ := by
  have agrees : unkeyed.Agrees := nofun
  obtain ⟨e, job, repaired, named, -, -, -, -, exact⟩ := backfill_agrees agrees
  have strays : ¬ unkeyed.Strays := fun strays => by cases strays.1
  rw [repaired, exact.mpr strays, named "prod" rfl]
  exact ⟨agrees, rfl⟩

/-- A task whose job has an environment that the record does not name. -/
def unnamed : Record := ⟨"t", "www", "web", none, some ⟨"www", "prod", "web"⟩, .running, 1⟩

/-- The fields of a record agree, and after a repair they do not. -/
theorem strays_unnamed :
    unnamed.Agrees ∧
      ¬ ∃ e, unnamed.backfill.environment = some e ∧
        unnamed.backfill.jobKey = some ⟨unnamed.role, e, unnamed.jobName⟩ := by
  refine ⟨fun job key => ?_, ?_⟩
  · cases key
    exact ⟨rfl, rfl, nofun⟩
  · rintro ⟨e, named, key⟩
    cases named
    exact absurd key (by decide)

/-- The fields agree, and will after a repair. -/
structure Coherent (r : Record) : Prop where
  agrees : r.Agrees
  stays : ¬ r.Strays

theorem coherent_ofJob (taskId : String) (job : JobKey) (status : TaskStatus)
    (updatedAt : UInt64) : (ofJob taskId job status updatedAt).Coherent where
  agrees := by
    rintro _ ⟨⟩
    exact ⟨rfl, rfl, fun _ named => Option.some.inj named⟩
  stays := nofun

/-- A complete record says of its job the same twice. -/
theorem Coherent.jobKey_eq (h : r.Coherent) (complete : r.isComplete = true) :
    ∃ e, r.environment = some e ∧ r.jobKey = some ⟨r.role, e, r.jobName⟩ := by
  have same := backfill_of_isComplete complete
  refine ⟨r.environment.getD defaultEnvironment, (congrArg environment same).symm, ?_⟩
  exact (congrArg jobKey same).symm.trans (h.agrees.jobKey_backfill.mpr h.stays)

theorem Coherent.backfill (h : r.Coherent) : r.backfill.Coherent where
  agrees job key := by
    cases key.symm.trans (h.agrees.jobKey_backfill.mpr h.stays)
    exact ⟨rfl, rfl, fun _ named => Option.some.inj named⟩
  stays := nofun

end Record

/-! ## All records of a store -/

namespace Store

variable {s s' : Store}

/-- Every record under every key is coherent; a value that is no record does not matter. -/
def Coherent (s : Store) : Prop :=
  ∀ key bytes r, s.tasks.get? key = some bytes → Record.decode bytes = .ok r → r.Coherent

theorem Coherent.start : Coherent .empty := nofun

theorem Coherent.put (h : s.Coherent) {r : Record} (coherent : r.Coherent) :
    (s.put r).Coherent := by
  intro key bytes r' found decoded
  rw [Store.put, Table.get?_insert] at found
  split at found
  · cases found
    cases (Record.decode_encode r).symm.trans decoded
    exact coherent
  · exact h key bytes r' found decoded

theorem Coherent.delete (h : s.Coherent) (taskId : String) : (s.delete taskId).2.Coherent := by
  intro key bytes r found decoded
  rw [Store.delete, Table.get?_erase] at found
  split at found
  · cases found
  · exact h key bytes r found decoded

/-- The values that a repair leaves are those of the records before it, repaired. -/
theorem decode_of_repaired {bytes : Bytes} {r : Record}
    (decoded : Record.decode (repaired bytes) = .ok r) :
    ∃ before, Record.decode bytes = .ok before ∧ r = before.backfill := by
  cases read : Record.decode bytes with
  | error fault =>
    rw [repaired, read] at decoded
    cases read.symm.trans decoded
  | ok before =>
    refine ⟨before, rfl, ?_⟩
    rw [repaired_of_decode read] at decoded
    split at decoded
    · next complete =>
      cases read.symm.trans decoded
      exact (Record.backfill_of_isComplete complete).symm
    · cases (Record.decode_encode _).symm.trans decoded
      rfl

theorem found_in_backfilled {key : String} {bytes : Bytes} {r : Record}
    (found : s.backfilled.tasks.get? key = some bytes) (decoded : Record.decode bytes = .ok r) :
    ∃ old before, s.tasks.get? key = some old ∧ Record.decode old = .ok before ∧
      r = before.backfill := by
  rw [backfilled, Table.get?_mapValues, Option.map_eq_some_iff] at found
  obtain ⟨old, found, rfl⟩ := found
  obtain ⟨before, read, rfl⟩ := decode_of_repaired decoded
  exact ⟨old, before, found, read, rfl⟩

theorem Coherent.backfilled (h : s.Coherent) : s.backfilled.Coherent := by
  intro key bytes r found decoded
  obtain ⟨old, before, found, read, rfl⟩ := found_in_backfilled found decoded
  exact (h key old before found read).backfill

theorem eq_backfilled {count : Nat} (repaired : s.backfill = .ok (count, s')) :
    s' = s.backfilled := by
  rw [backfill_eq] at repaired
  cases listed : s.list <;> rw [listed] at repaired <;> cases repaired
  rfl

/-- A request keeps a store coherent, unless it puts in a record that is not. -/
theorem Coherent.perform (h : s.Coherent) {request : Request}
    (puts : ∀ r, request = .put r → r.Coherent) : (s.perform request).2.Coherent := by
  cases request with
  | setFrameworkId | frameworkId | get | list => exact h
  | put r => exact h.put (puts r rfl)
  | delete taskId => exact h.delete taskId
  | backfill =>
    rw [Store.perform]
    split
    · next repaired =>
      rw [eq_backfilled repaired]
      exact h.backfilled
    · exact h

theorem Coherent.step? {o o' : Opened} {use : Use} {answer : Except StoreError Answer}
    (h : o.store.Coherent) (puts : ∀ handle r, use = .ask handle (.put r) → r.Coherent)
    (step : o.step? use = some (answer, o')) : o'.store.Coherent := by
  cases use with
  | ask handle request =>
    obtain ⟨-, step⟩ := Option.ite_none_right_eq_some.mp step
    cases step
    exact h.perform fun r put => puts handle r (put ▸ rfl)
  | clone =>
    obtain ⟨-, step⟩ := Option.ite_none_right_eq_some.mp step
    cases step
    exact h
  | reopen =>
    obtain ⟨-, step⟩ := Option.ite_none_right_eq_some.mp step
    cases step
    exact h

/-- Whoever uses a store, its records stay coherent as long as those are that are put in. -/
theorem Coherent.run? {o o' : Opened} {uses : List Use}
    {answers : List (Except StoreError Answer)} (h : o.store.Coherent)
    (puts : ∀ handle r, .ask handle (.put r) ∈ uses → r.Coherent)
    (run : o.run? uses = some (answers, o')) : o'.store.Coherent := by
  induction uses generalizing o answers with
  | nil =>
    cases run
    exact h
  | cons use rest ih =>
    obtain ⟨⟨answer, o₁⟩, step, run⟩ := Option.bind_eq_some_iff.mp run
    obtain ⟨⟨answers, o₂⟩, run, last⟩ := Option.bind_eq_some_iff.mp run
    cases last
    have stays : o₁.store.Coherent :=
      h.step? (fun handle r put => puts handle r (put ▸ List.mem_cons_self)) step
    exact ih stays (fun handle r mem => puts handle r (List.mem_cons_of_mem _ mem)) run

/-- After a repair of coherent records each is complete, and says of its job the same twice. -/
theorem Coherent.jobKey_of_backfill (h : s.Coherent) {count : Nat}
    (repaired : s.backfill = .ok (count, s')) {key : String} {bytes : Bytes} {r : Record}
    (found : s'.tasks.get? key = some bytes) (decoded : Record.decode bytes = .ok r) :
    ∃ e, r.environment = some e ∧ r.jobKey = some ⟨r.role, e, r.jobName⟩ := by
  rw [eq_backfilled repaired] at found
  obtain ⟨_, before, old, read, rfl⟩ := found_in_backfilled found decoded
  exact (h _ _ _ old read).backfill.jobKey_eq before.isComplete_backfill

/-- No record of a new store comes to contradict itself, if none is put in that would when it is
repaired: all are coherent whatever is done with the store, and match their job keys after a
repair. -/
theorem Opened.coherent_of_new {file : Option File} (new : file ∈ newPlaces) {o o' : Opened}
    {uses : List Use} {answers : List (Except StoreError Answer)} (opened : openAt file = .ok o)
    (run : o.run? uses = some (answers, o'))
    (puts : ∀ handle r, .ask handle (.put r) ∈ uses → r.Coherent) :
    o'.store.Coherent ∧ ∀ count s', o'.store.backfill = .ok (count, s') →
      ∀ key bytes r, s'.tasks.get? key = some bytes → Record.decode bytes = .ok r →
        ∃ e, r.environment = some e ∧ r.jobKey = some ⟨r.role, e, r.jobName⟩ := by
  rw [openAt_of_new new] at opened
  cases opened
  have coherent : o'.store.Coherent := Coherent.start.run? puts run
  exact ⟨coherent, fun _ _ repaired _ _ _ => coherent.jobKey_of_backfill repaired⟩

/-- Who only puts in records that are made of jobs never meets a contradiction. -/
theorem Opened.coherent_of_jobs {file : Option File} (new : file ∈ newPlaces) {o o' : Opened}
    {uses : List Use} {answers : List (Except StoreError Answer)} (opened : openAt file = .ok o)
    (run : o.run? uses = some (answers, o'))
    (jobs : ∀ handle r, .ask handle (.put r) ∈ uses →
      ∃ taskId job status updatedAt, r = .ofJob taskId job status updatedAt) :
    o'.store.Coherent := by
  refine (coherent_of_new new opened run fun handle r put => ?_).1
  obtain ⟨taskId, job, status, updatedAt, rfl⟩ := jobs handle r put
  exact Record.coherent_ofJob taskId job status updatedAt

end Store
end Tenure
