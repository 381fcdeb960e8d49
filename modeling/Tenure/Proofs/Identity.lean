import Tenure.Proofs.Faithful

/-!
# One identity for ever

A driver is made to resume the identity that the store has. One that resumes none registers under a
new identity, which is kept before it is made known, and kept only while the storage runs. So there
is one identity at most that is ever made known, in any number of lifetimes.
-/
namespace Tenure.Lifecycle

open Standalone (Errand Scheduler)

/-! ## What is made known -/

variable {s s' : Scheduler} {e e' : Errand}

/-- A registration is posted when the account says so. What the replica has posted is its own. -/
theorem bus_of_step? (h : e.step? s = some (e', s')) :
    s'.bus = s.bus ∨ (∃ event, e = .begun (.post event) ∧ s'.bus = s.bus.post event) ∨
      ∃ id, deed? s e = some (.announced id) ∧ s'.bus = s.bus.post (.driverRegistered id) := by
  cases e with
  | begun c =>
    cases c with
    | post event =>
      cases h
      exact .inr (.inl ⟨event, rfl, rfl⟩)
    | repairStorage | readFrameworkId | startDriver =>
      simp only [Errand.step?] at h
      split at h <;> cases h <;> exact .inl rfl
    | joinDriver driver =>
      obtain ⟨status, -, eq⟩ := Option.map_eq_some_iff.mp h
      cases eq
      exact .inl rfl
    | arm timer => cases timer <;> cases h <;> exact .inl rfl
    | _ =>
      cases h
      exact .inl rfl
  | registering driver id =>
    simp only [Errand.step?] at h
    split at h <;> cases h <;> exact .inl rfl
  | announcing driver id =>
    cases h
    exact .inr (.inr ⟨id, rfl, rfl⟩)
  | advertising grant call | leaving grant call =>
    cases call with
    | done result =>
      cases h
      exact .inl rfl
    | advertise | publish | leave | withdraw =>
      obtain ⟨controls, eq⟩ := s.handle_eq grant _
      cases h
      exact .inl (by rw [eq])
  | done c x => cases h
  | _ =>
    cases h
    exact .inl rfl

/-- The replica itself posts no registration. -/
theorem Pool.eq_of_post {schedule : List Choice} {p : Pool}
    (run : Pool.run Rule.calm schedule = some p) {event : Event}
    (posted : .post event ∈ p.trace.calls) : event = .schedulerActive := by
  obtain ⟨l, G, adequate, reached⟩ := Pool.accounted run
  have mem : Call.post event ∈ p.trace.calls.filter Call.posts := List.mem_filter.mpr ⟨posted, rfl⟩
  rw [adequate.calls, reached.posts] at mem
  cases confirming : G.confirming <;> simp_all [Confirming.posts]

/-- Every registration that is on the bus is in the account. -/
def Life.Tells (w : Life) : Prop :=
  ∀ id, .driverRegistered id ∈ w.scheduler.bus.retained → id ∈ w.announced

theorem Life.Tells.step {w w' : Life} {choice : Life.Choice} (h : w.Tells) (inStep : w.InStep)
    (step : w.step? choice = some w') : w'.Tells := by
  intro id mem
  obtain ⟨inStep', moved | ⟨i, e, e', served⟩⟩ := inStep.step step
  · rw [moved.bus] at mem
    rw [Life.announced, moved.deeds]
    exact h id mem
  · have before (mem : .driverRegistered id ∈ w.scheduler.bus.retained) : id ∈ w'.announced := by
      rw [Life.announced, served.deeds, List.filterMap_append]
      exact List.mem_append_left _ (h id mem)
    obtain same | ⟨event, rfl, posts⟩ | ⟨id', told, posts⟩ := bus_of_step? served.step
    · exact before (same ▸ mem)
    · rcases Bus.mem_retained_post (posts ▸ mem) with old | rfl
      · exact before old
      · obtain ⟨schedule, run⟩ := inStep.run
        obtain ⟨o, task, hi, waits⟩ := inStep.waits i _ served.errand
        cases Pool.eq_of_post run (Pool.mem_calls_of_open run hi waits)
    · rcases Bus.mem_retained_post (posts ▸ mem) with old | new
      · exact before old
      · cases new
        refine Life.mem_announced.mpr ⟨w'.scheduler.storage, ?_⟩
        rw [served.deeds, told]
        exact List.mem_append_right _ (List.mem_singleton_self _)

theorem Life.Tells.follow {w w' : Life} {schedule : List Life.Choice} (h : w.Tells)
    (inStep : w.InStep) (follow : w.follow? schedule = some w') : w'.Tells :=
  (Life.follow_induction (motive := fun w => w.InStep ∧ w.Tells)
    (fun _ _ _ ⟨inStep, h⟩ step => ⟨(inStep.step step).1, h.step inStep step⟩) ⟨inStep, h⟩
    follow).2

/-! ## Lifetimes one after another -/

/-- An identity was in the store all the time, and every driver was made to resume it. -/
structure Life.Retains (w : Life) (id : String) : Prop where
  ends : w.scheduler.storage.Holds id
  deeds : ∀ entry ∈ w.deeds, entry.2.Holds id
  created : ∀ resumed d, (.created resumed, d) ∈ w.deeds → resumed = some id

namespace Life.Faithful

variable {w : Life} {d d' : Durable} {id id' : String}

theorem retains (h : w.Faithful d) (held : d.Holds id) : w.Retains id where
  ends := h.kept id held
  deeds entry mem := h.since entry mem id held
  created _ _ mem := (h.sound _ mem).eq_some (h.since _ mem id held)

theorem holds_of_announced (h : w.Faithful d) (mem : (.announced id, d') ∈ w.deeds) :
    w.scheduler.storage.Holds id := h.lasts _ mem id (h.sound _ mem)

end Life.Faithful

/-- Nothing is made known but what was in the store all the time. -/
theorem Life.Retains.announced {w : Life} {d d' : Durable} {id id' : String} (h : w.Retains id)
    (faithful : w.Faithful d) (mem : (.announced id', d') ∈ w.deeds) : id' = id :=
  Durable.Holds.unique (faithful.sound _ mem) (h.deeds _ mem)

namespace Lifetime

variable {d : Durable} {l : Lifetime} {w : Life} {history : List Lifetime} {lives : List Life}

/-- The storage that lifetimes leave. -/
def leave (d : Durable) : List Life → Durable
  | [] => d
  | w :: rest => leave w.scheduler.storage rest

theorem live_faithful (disk : d.place ≠ .memory) (lived : l.live? d = some w) :
    w.Faithful d ∧ w.scheduler.storage.place ≠ .memory := by
  obtain ⟨scheduler, assembled, follow⟩ := Option.bind_eq_some_iff.mp lived
  obtain ⟨storage, drivers, -⟩ := Scheduler.of_assemble assembled
  have upholds := Life.Upholds.start (storage ▸ disk) (storage ▸ rfl) drivers
  have faithful : Life.Faithful d { scheduler } := .start (storage ▸ fun _ => id)
  obtain ⟨stage, upholds, faithful⟩ := upholds.follow faithful follow
  exact ⟨faithful, upholds.disk⟩

theorem live_tells (lived : l.live? d = some w) : w.Tells := by
  obtain ⟨scheduler, assembled, follow⟩ := Option.bind_eq_some_iff.mp lived
  obtain ⟨-, -, bus⟩ := Scheduler.of_assemble assembled
  have tells : Life.Tells { scheduler } := fun id mem => by
    rw [bus] at mem
    cases mem
  exact tells.follow .start follow

theorem liveAll?_cons (lived : liveAll? d (l :: history) = some lives) :
    ∃ w rest, lives = w :: rest ∧ l.live? d = some w ∧
      liveAll? w.scheduler.storage history = some rest := by
  simp only [liveAll?, Option.bind_eq_bind, Option.bind_eq_some_iff] at lived
  obtain ⟨w, first, rest, others, eq⟩ := lived
  cases eq
  exact ⟨w, rest, rfl, first, others⟩

theorem retains_of_holds (disk : d.place ≠ .memory) (lived : liveAll? d history = some lives)
    {id : String} (held : d.Holds id) : ∀ w ∈ lives, w.Retains id := by
  induction history generalizing d lives with
  | nil =>
    obtain rfl : [] = lives := Option.some.inj lived
    simp
  | cons l history ih =>
    obtain ⟨w, rest, rfl, first, others⟩ := liveAll?_cons lived
    obtain ⟨faithful, disk'⟩ := live_faithful disk first
    have retains := faithful.retains held
    rintro w' (_ | ⟨_, mem⟩)
    · exact retains
    · exact ih disk' others retains.ends w' mem

/-- Each of the lifetimes has found a storage. -/
theorem exists_live (disk : d.place ≠ .memory) (lived : liveAll? d history = some lives) :
    ∀ w ∈ lives, ∃ (d' : Durable) (l : Lifetime), d'.place ≠ .memory ∧ l.live? d' = some w := by
  induction history generalizing d lives with
  | nil =>
    obtain rfl : [] = lives := Option.some.inj lived
    simp
  | cons l history ih =>
    obtain ⟨w, rest, rfl, first, others⟩ := liveAll?_cons lived
    rintro w' (_ | ⟨_, mem⟩)
    · exact ⟨d, l, disk, first⟩
    · exact ih (live_faithful disk first).2 others w' mem

/-- So it was faithful to a storage. -/
theorem exists_faithful (disk : d.place ≠ .memory) (lived : liveAll? d history = some lives)
    (mem : w ∈ lives) : ∃ d', w.Faithful d' := by
  obtain ⟨d', l, disk', lived'⟩ := exists_live disk lived w mem
  exact ⟨d', (live_faithful disk' lived').1⟩

/-- Lifetimes go on from what those before them have left. -/
theorem liveAll?_append (disk : d.place ≠ .memory) {before after : List Life}
    (lived : liveAll? d history = some (before ++ after)) :
    (leave d before).place ≠ .memory ∧
      ∃ later, liveAll? (leave d before) later = some after := by
  induction before generalizing d history with
  | nil => exact ⟨disk, history, lived⟩
  | cons w before ih =>
    cases history with
    | nil => cases lived
    | cons l history =>
      obtain ⟨w', rest, eq, first, others⟩ := liveAll?_cons lived
      cases eq
      exact ih (live_faithful disk first).2 others

theorem announced_unique (disk : d.place ≠ .memory) (lived : liveAll? d history = some lives) :
    ∃ id, ∀ w ∈ lives, ∀ id' ∈ w.announced, id' = id := by
  induction history generalizing d lives with
  | nil =>
    obtain rfl : [] = lives := Option.some.inj lived
    exact ⟨"", by simp⟩
  | cons l history ih =>
    obtain ⟨w, rest, rfl, first, others⟩ := liveAll?_cons lived
    obtain ⟨faithful, disk'⟩ := live_faithful disk first
    cases known : w.announced with
    | nil =>
      obtain ⟨id, same⟩ := ih disk' others
      refine ⟨id, ?_⟩
      rintro w' (_ | ⟨_, mem⟩)
      · simp [known]
      · exact same w' mem
    | cons id others' =>
      obtain ⟨d', announced⟩ := Life.mem_announced.mp (known ▸ List.mem_cons_self)
      have held := faithful.holds_of_announced announced
      refine ⟨id, ?_⟩
      rintro w' (_ | ⟨_, mem⟩) id' announced'
      · obtain ⟨d'', announced'⟩ := Life.mem_announced.mp announced'
        exact (faithful.holds_of_announced announced').unique held
      · obtain ⟨d'', announced'⟩ := Life.mem_announced.mp announced'
        obtain ⟨d₀, faithful'⟩ := exists_faithful disk' others mem
        exact (retains_of_holds disk' others held w' mem).announced faithful' announced'

end Lifetime

/-! ## An interrupted lead -/

namespace Life.Choice

/-- A task takes some steps, and its collaborator some after them. -/
def upTo (i n m : Nat) : List Life.Choice :=
  List.replicate n (.advance i) ++ List.replicate m (.serve i)

/-- A replica is made ready and takes the lead. It is told to step down when its driver runs, and
before the identity of the driver is kept. -/
def interrupted : List Life.Choice :=
  .begin .prepare :: upTo 0 3 2 ++ upTo 0 1 2 ++ upTo 0 3 2 ++
    .elect "a" :: upTo 1 5 2 ++ upTo 1 2 3 ++ upTo 1 1 3 ++ upTo 1 2 2 ++
    upTo 1 2 2 ++ upTo 1 1 2 ++ upTo 1 3 1 ++ .begin (.stepDown none) :: upTo 2 5 2 ++ upTo 1 0 3

end Life.Choice

/-! ## One identity -/

/-- Whatever comes of each of any number of lifetimes over one file, and wherever it is cut short,
all registrations that are ever made known, and so all that are on a bus, carry one identity. Each
is in the file by then, and the storage has refused none. An identity that is in the file stays
there to the end of the lifetime and through all later ones, and every driver that these make
resumes it. -/
theorem one_identity {d : Durable} (disk : d.place ≠ .memory) {history : List Lifetime}
    {lives : List Life} (lived : Lifetime.liveAll? d history = some lives) :
    (∃ id, ∀ w ∈ lives, ∀ id' ∈ w.announced, id' = id) ∧
    (∀ w ∈ lives, ∀ id, .driverRegistered id ∈ w.scheduler.bus.retained → id ∈ w.announced) ∧
    (∀ w ∈ lives, ∀ id d', (.announced id, d') ∈ w.deeds → d'.Holds id) ∧
    (∀ w ∈ lives, ∀ id result d', (.saved id result, d') ∈ w.deeds → result = .ok ()) ∧
    (∀ w ∈ lives, ∀ entry ∈ w.deeds, entry.2.Keeps w.scheduler.storage) ∧
    ∀ before after id, lives = before ++ after → (Lifetime.leave d before).Holds id →
      ∀ w ∈ after, w.Retains id := by
  refine ⟨Lifetime.announced_unique disk lived, fun w mem => ?_, fun w mem id d' announced => ?_,
    fun w mem id result d' saved => ?_, fun w mem => ?_, fun before after id split held => ?_⟩
  · obtain ⟨d', l, -, lived'⟩ := Lifetime.exists_live disk lived w mem
    exact Lifetime.live_tells lived'
  · obtain ⟨d₀, faithful⟩ := Lifetime.exists_faithful disk lived mem
    exact faithful.sound _ announced
  · obtain ⟨d₀, faithful⟩ := Lifetime.exists_faithful disk lived mem
    exact (faithful.sound _ saved).1
  · obtain ⟨d₀, faithful⟩ := Lifetime.exists_faithful disk lived mem
    exact faithful.lasts
  · obtain ⟨disk', later, lived'⟩ := Lifetime.liveAll?_append disk (split ▸ lived)
    exact Lifetime.retains_of_holds disk' lived' held

/-- The identity that a lifetime has made known is the one that the next lifetime resumes, though
it would have made another. -/
theorem one_identity_of_interrupted :
    ∃ v w, Lifetime.liveAll? (.onDisk .absent)
        [⟨{}, ⟨7, 100⟩, Life.Choice.interrupted⟩, ⟨{}, ⟨8, 200⟩, Life.Choice.interrupted⟩] =
          some [v, w] ∧
      v.announced = ["warpgrid-scheduler-7-100"] ∧ w.announced = ["warpgrid-scheduler-7-100"] ∧
        w.Retains "warpgrid-scheduler-7-100" := by
  have ends : ∃ lives, lives ∈ Lifetime.liveAll? (.onDisk .absent)
      [⟨{}, ⟨7, 100⟩, Life.Choice.interrupted⟩, ⟨{}, ⟨8, 200⟩, Life.Choice.interrupted⟩] ∧
      lives.map Life.announced =
        [["warpgrid-scheduler-7-100"], ["warpgrid-scheduler-7-100"]] := by
    decide +kernel
  obtain ⟨lives, lived, known⟩ := ends
  obtain ⟨v, _, rfl, first, known⟩ := List.map_eq_cons_iff.mp known
  obtain ⟨w, _, rfl, second, known⟩ := List.map_eq_cons_iff.mp known
  obtain rfl := List.map_eq_nil_iff.mp known
  obtain ⟨d, announced⟩ := Life.mem_announced.mp (first ▸ List.mem_singleton_self _)
  obtain ⟨-, -, holds, -, lasts, retains⟩ := one_identity (by decide) lived
  have held := lasts v (by simp) _ announced _ (holds v (by simp) _ d announced)
  exact ⟨v, w, lived, first, second, retains [v] [w] _ rfl held w (by simp)⟩

end Tenure.Lifecycle
