import Tenure.Proofs.Alone
import Tenure.Standalone.Errand

/-!
# The lifetimes of a scheduler

In one lifetime a scheduler is assembled at its storage, and any number of operations are begun on
its replica. Operations and collaborators take their steps in any order. A lifetime may be cut
short anywhere, and the next one finds the file of the storage as it was left.

Beside a life stands an account of what was done about the identity of the framework. No step of
the life looks at it.
-/
namespace Tenure.Lifecycle

open Standalone (Errand Scheduler Stamp)

/-- The call that a task waits for. -/
def Task.open? : Task → Option Call
  | calling c _ => some c
  | running _ => none

/-- What is done about the identity of the framework. -/
inductive Deed where
  /-- A driver was made, to resume this identity if there is one. -/
  | created (id : Option String)
  /-- A driver runs under an identity. -/
  | registered (id : String)
  /-- The registration callback has had an identity saved, or was refused. -/
  | saved (id : String) (result : Except StorageError Unit)
  /-- The registration callback has posted an identity. -/
  | announced (id : String)

/-- What the next step of an errand does about the identity. -/
def deed? (s : Scheduler) : Errand → Option Deed
  | .begun (.createDriver id) => some (.created id)
  | .begun (.startDriver driver) =>
    match s.fleet.start driver.index with
    | some (_, some id, _) => some (.registered id)
    | _ => none
  | .registering _ id =>
    match s.storage.usable with
    | .ok () => none
    | .error e => some (.saved id (.error e))
  | .saving _ id => some (.saved id (s.work (Durable.storage.save id)).1)
  | .announcing _ id => some (.announced id)
  | _ => none

/-- A scheduler with its operations, and with the errands of the calls that are open, by task. -/
structure Life where
  scheduler : Scheduler
  pool : Pool := {}
  errands : Nat → Option Errand := fun _ => none
  /-- What was done about the identity, with the storage as it was then. -/
  deeds : List (Deed × Durable) := []

namespace Deed

/-- The identity that a deed makes known. -/
def announced? : Deed → Option String
  | announced id => some id
  | _ => none

end Deed

namespace Life

/-- The identities that were made known. -/
def announced (w : Life) : List String := w.deeds.filterMap (·.1.announced?)

theorem mem_announced {w : Life} {id : String} :
    id ∈ w.announced ↔ ∃ d, (.announced id, d) ∈ w.deeds := by
  rw [announced, List.mem_filterMap]
  constructor
  · rintro ⟨⟨deed, d⟩, mem, known⟩
    cases deed <;> cases known
    exact ⟨d, mem⟩
  · rintro ⟨d, mem⟩
    exact ⟨_, mem, rfl⟩

inductive Choice where
  | begin (operation : Operation)
  /-- The election makes a grant and offers it. -/
  | elect (endpoint : String)
  | advance (i : Nat)
  /-- The collaborator that a task waits for takes its next step, or answers. -/
  | serve (i : Nat)

/-- The life after a step of the replica. -/
def put (w : Life) (p : Pool) : Life :=
  { w with pool := p, scheduler := { w.scheduler with replica := p.shared } }

/-- Puts the errand of a task in place of the one that it had. -/
def setErrand (w : Life) (i : Nat) (e : Option Errand) : Life :=
  { w with errands := fun j => if j = i then e else w.errands j }

/-- The errand on which a task waits, if it is at a call. -/
def errandOf (p : Pool) (i : Nat) : Option Errand :=
  (p.tasks[i]?.bind fun entry => entry.2.open?).map .begun

/-- The life after a step of an errand: what is left of the errand, and the scheduler. -/
def settle (w : Life) (i : Nat) (e : Errand) (next : Errand × Scheduler) : Life :=
  { w.setErrand i (some next.1) with
    scheduler := next.2
    deeds := w.deeds ++
      ((deed? w.scheduler e).map fun deed => (deed, next.2.storage)).toList }

/-- The next step of an errand, or its answer to the task. -/
def serve? (w : Life) (i : Nat) : Errand → Option Life
  | .done c x =>
    (w.pool.step? (.answer i c (some x))).map fun p => (w.put p).setErrand i none
  | e => (e.step? w.scheduler).map (w.settle i e)

def step? (w : Life) : Choice → Option Life
  | .begin operation => (w.pool.step? (.begin operation)).map w.put
  | .elect endpoint =>
    match (Scheduler.newGrant endpoint).run w.scheduler with
    | .ok grant scheduler =>
      (w.pool.step? (.begin (.lead grant))).map { w with scheduler }.put
    | .error _ _ => none
  | .advance i => (w.pool.step? (.advance i)).map fun p => (w.put p).setErrand i (errandOf p i)
  | .serve i => (w.errands i).bind (w.serve? i)

def follow? (w : Life) : List Choice → Option Life
  | [] => some w
  | choice :: rest => (w.step? choice).bind fun w => w.follow? rest

/-- What every step keeps holds to the end. -/
theorem follow_induction {motive : Life → Prop}
    (step : ∀ w choice w', motive w → w.step? choice = some w' → motive w') {w w' : Life}
    {schedule : List Choice} (start : motive w) (follow : w.follow? schedule = some w') :
    motive w' := by
  induction schedule generalizing w with
  | nil =>
    cases follow
    exact start
  | cons choice rest ih =>
    obtain ⟨w'', first, follow⟩ := Option.bind_eq_some_iff.mp follow
    exact ih (step w choice w'' start first) follow

end Life

/-- What a lifetime is given: its configuration, what makes its new identities its own, and the
order in which things happen. -/
structure Lifetime where
  config : Config
  stamp : Stamp
  schedule : List Life.Choice

namespace Lifetime

/-- A lifetime at a storage that was used before. -/
def live? (l : Lifetime) (d : Durable) : Option Life :=
  (Scheduler.assemble l.config d.reopened l.stamp).toOption.bind fun scheduler =>
    ({ scheduler } : Life).follow? l.schedule

/-- Lifetimes one after another. -/
def liveAll? (d : Durable) : List Lifetime → Option (List Life)
  | [] => some []
  | l :: rest => do
    let w ← l.live? d
    return w :: (← liveAll? w.scheduler.storage rest)

end Lifetime

/-! ## What a step of a life does -/

namespace Life

variable {w w' : Life} {i : Nat} {e e' : Errand}

/-- A call was answered, or its answer is ready. -/
def Heard (w : Life) (c : Call) (x : c.Answer) : Prop :=
  ∃ i, w.errands i = some (.done c x) ∨ (i, .answered c (some x)) ∈ w.pool.trace

/-- The replica runs as any does whose collaborators do not panic, and errands are those of the
calls that are open. -/
structure InStep (w : Life) : Prop where
  run : ∃ schedule, Pool.run Rule.calm schedule = some w.pool
  waits : ∀ i e, w.errands i = some e →
    ∃ o task, w.pool.tasks[i]? = some (o, task) ∧ task.open? = some e.call

/-- The replica has taken a step, and the collaborators have not. -/
structure Moved (w w' : Life) : Prop where
  storage : w'.scheduler.storage = w.scheduler.storage
  fleet : w'.scheduler.fleet = w.scheduler.fleet
  bus : w'.scheduler.bus = w.scheduler.bus
  deeds : w'.deeds = w.deeds
  trace : w.pool.trace ⊆ w'.pool.trace
  errands : ∀ i e, w'.errands i = some e → w.errands i = some e ∨ ∃ c, e = .begun c
  heard : ∀ c x, w'.Heard c x ↔ w.Heard c x

/-- A collaborator has taken a step of an errand. -/
structure Served (w : Life) (i : Nat) (e e' : Errand) (w' : Life) : Prop where
  errand : w.errands i = some e
  step : e.step? w.scheduler = some (e', w'.scheduler)
  pool : w'.pool = w.pool
  own : w'.errands i = some e'
  others : ∀ j, j ≠ i → w'.errands j = w.errands j
  deeds : w'.deeds = w.deeds ++
    ((deed? w.scheduler e).map fun deed => (deed, w'.scheduler.storage)).toList

/-- What is heard of after a step of an errand was heard of before, or is its answer. -/
theorem Served.heard_iff (h : w.Served i e e' w') {c : Call} {x : c.Answer} :
    w'.Heard c x ↔ w.Heard c x ∨ e' = .done c x := by
  constructor
  · rintro ⟨j, errand | answered⟩
    · by_cases ji : j = i
      · exact .inr (Option.some.inj (h.own.symm.trans (ji ▸ errand)))
      · exact .inl ⟨j, .inl (h.others j ji ▸ errand)⟩
    · exact .inl ⟨j, .inr (h.pool ▸ answered)⟩
  · rintro (⟨j, errand | answered⟩ | rfl)
    · refine ⟨j, .inl ?_⟩
      rw [h.others j ?_, errand]
      rintro rfl
      obtain rfl : e = .done c x := Option.some.inj (h.errand.symm.trans errand)
      cases h.step
    · exact ⟨j, .inr (h.pool ▸ answered)⟩
    · exact ⟨i, .inl h.own⟩

theorem errands_setErrand_self (w : Life) (i : Nat) (e : Option Errand) :
    (w.setErrand i e).errands i = e := if_pos rfl

theorem errands_setErrand_of_ne (w : Life) (e : Option Errand) {i j : Nat} (ne : j ≠ i) :
    (w.setErrand i e).errands j = w.errands j := if_neg ne

namespace InStep

theorem start {scheduler : Scheduler} : InStep { scheduler } := ⟨⟨[], rfl⟩, nofun⟩

theorem begin (h : w.InStep) (operation : Operation) {scheduler : Scheduler}
    (storage : scheduler.storage = w.scheduler.storage)
    (fleet : scheduler.fleet = w.scheduler.fleet) (bus : scheduler.bus = w.scheduler.bus)
    {p : Pool} (step : w.pool.step? (.begin operation) = some p) :
    (({ w with scheduler } : Life).put p).InStep ∧
      w.Moved (({ w with scheduler } : Life).put p) := by
  obtain ⟨schedule, run⟩ := h.run
  have run' := Pool.run_append run rfl step
  cases step
  refine ⟨⟨⟨_, run'⟩, fun i e mem => ?_⟩, ?_⟩
  · obtain ⟨o, task, hi, waits⟩ := h.waits i e mem
    have lt : i < w.pool.tasks.length := (List.getElem?_eq_some_iff.mp hi).1
    exact ⟨o, task, by rwa [put, List.getElem?_append_left lt], waits⟩
  · exact
      { storage, fleet, bus
        deeds := rfl
        trace := fun _ => id
        errands := fun _ _ => .inl
        heard := fun _ _ => .rfl }

/-- What was heard of is what was, when a task puts down what it does: it takes up the answer that
its errand had ready, and no other. -/
theorem heard_put {o : Operation} {task' : Task} {act : Option Act} {shared : Shared}
    {errand : Option Errand} (begins : ∀ e, errand = some e → ∃ c, e = .begun c) (c : Call)
    (x : c.Answer) (answers : act = some (.answered c (some x)) ↔ w.errands i = some (.done c x)) :
    ((w.put (w.pool.put i o act shared task')).setErrand i errand).Heard c x ↔ w.Heard c x := by
  constructor
  · rintro ⟨j, mem | mem⟩
    · by_cases ji : j = i
      · rw [ji, errands_setErrand_self] at mem
        obtain ⟨c', absurd⟩ := begins _ mem
        cases absurd
      · rw [errands_setErrand_of_ne _ _ ji] at mem
        exact ⟨j, .inl mem⟩
    · rcases List.mem_append.mp mem with old | new
      · exact ⟨j, .inr old⟩
      · obtain ⟨act', rfl, eq⟩ := Option.map_eq_some_iff.mp (Option.mem_toList.mp new)
        cases eq
        exact ⟨i, .inl (answers.mp rfl)⟩
  · rintro ⟨j, mem | mem⟩
    · by_cases ji : j = i
      · refine ⟨i, .inr (List.mem_append_right _ ?_)⟩
        rw [answers.mpr (ji ▸ mem)]
        exact List.mem_singleton_self _
      · refine ⟨j, .inl ?_⟩
        rwa [errands_setErrand_of_ne _ _ ji]
    · exact ⟨j, .inr (List.mem_append_left _ mem)⟩

/-- A task puts down what it does, and has the errand of the call that it then waits for. -/
theorem put (h : w.InStep) {p : Pool} {o : Operation} {task task' : Task} {act : Option Act}
    {shared : Shared} {errand : Option Errand}
    (run : ∃ schedule, Pool.run Rule.calm schedule = some p)
    (hi : w.pool.tasks[i]? = some (o, task)) (moved : p = w.pool.put i o act shared task')
    (waits : ∀ e, errand = some e → task'.open? = some e.call)
    (begins : ∀ e, errand = some e → ∃ c, e = .begun c)
    (answers : ∀ c x, act = some (.answered c (some x)) ↔ w.errands i = some (.done c x)) :
    ((w.put p).setErrand i errand).InStep ∧ w.Moved ((w.put p).setErrand i errand) := by
  subst moved
  have lt : i < w.pool.tasks.length := (List.getElem?_eq_some_iff.mp hi).1
  refine ⟨⟨run, fun j e mem => ?_⟩, ?_⟩
  · by_cases ji : j = i
    · subst ji
      rw [errands_setErrand_self] at mem
      exact ⟨o, task', by simp [Life.put, setErrand, Pool.put, lt], waits e mem⟩
    · rw [errands_setErrand_of_ne _ _ ji] at mem
      obtain ⟨o', task'', hj, open'⟩ := h.waits j e mem
      exact ⟨o', task'', by simpa [Life.put, setErrand, Pool.put, Ne.symm ji] using hj, open'⟩
  · exact
      { storage := rfl
        fleet := rfl
        bus := rfl
        deeds := rfl
        trace := List.subset_append_left _ _
        errands := by
          intro j e mem
          by_cases ji : j = i
          · rw [ji, errands_setErrand_self] at mem
            exact .inr (begins e mem)
          · rw [errands_setErrand_of_ne _ _ ji] at mem
            exact .inl mem
        heard := fun c x => heard_put begins c x (answers c x) }

/-- A task that moves by itself waits for no answer. -/
theorem errands_of_advance? (h : w.InStep) {o : Operation} {task : Task}
    (hi : w.pool.tasks[i]? = some (o, task)) {s : Shared}
    (moves : (task.advance? s).isSome = true) : w.errands i = none := by
  cases errand : w.errands i with
  | none => rfl
  | some e =>
    obtain ⟨o', task', hi', waits⟩ := h.waits i e errand
    obtain ⟨-, rfl⟩ := Prod.mk.inj (Option.some.inj (hi.symm.trans hi'))
    cases task with
    | running rest => cases waits
    | calling c next => cases moves

theorem advance (h : w.InStep) {p : Pool} (step : w.pool.step? (.advance i) = some p) :
    ((w.put p).setErrand i (errandOf p i)).InStep ∧
      w.Moved ((w.put p).setErrand i (errandOf p i)) := by
  obtain ⟨schedule, run⟩ := h.run
  have run' := Pool.run_append run rfl step
  simp only [Pool.step?, Option.bind_eq_some_iff, Option.map_eq_some_iff, Prod.exists] at step
  obtain ⟨operation, task, hi, act, shared, task', move, rfl⟩ := step
  have lt : i < w.pool.tasks.length := (List.getElem?_eq_some_iff.mp hi).1
  have idle := h.errands_of_advance? hi (by rw [move]; rfl)
  have errand : errandOf (w.pool.put i operation act shared task') i = task'.open?.map .begun := by
    simp [errandOf, Pool.put, lt]
  refine h.put ⟨_, run'⟩ hi rfl (fun e mem => ?_) (fun e mem => ?_) fun c x => ?_
  · rw [errand] at mem
    obtain ⟨c, open', rfl⟩ := Option.map_eq_some_iff.mp mem
    exact open'
  · obtain ⟨c, -, rfl⟩ := Option.map_eq_some_iff.mp mem
    exact ⟨c, rfl⟩
  · rw [idle]
    exact ⟨fun answered => (Pool.ne_answered_of_advance? move c _ answered).elim,
      fun none => by cases none⟩

theorem answer (h : w.InStep) {c : Call} {x : c.Answer} (errand : w.errands i = some (.done c x))
    {p : Pool} (step : w.pool.step? (.answer i c (some x)) = some p) :
    ((w.put p).setErrand i none).InStep ∧ w.Moved ((w.put p).setErrand i none) := by
  obtain ⟨schedule, run⟩ := h.run
  have run' := Pool.run_append run rfl step
  simp only [Pool.step?, Option.bind_eq_some_iff, Option.map_eq_some_iff, Prod.exists] at step
  obtain ⟨operation, task, hi, task', move, rfl⟩ := step
  refine h.put ⟨_, run'⟩ hi rfl (fun e mem => ?_) (fun e mem => ?_) fun c' x' => ?_
  · cases mem
  · cases mem
  rw [errand]
  constructor
  · rintro ⟨⟩
    rfl
  · rintro ⟨⟩
    rfl

/-- The task of an errand waits until there is an answer. -/
theorem serve (h : w.InStep) (served : w.Served i e e' w') : w'.InStep where
  run := served.pool ▸ h.run
  waits := by
    intro j e'' mem
    rw [served.pool]
    by_cases ji : j = i
    · subst ji
      obtain rfl : e' = e'' := Option.some.inj (served.own.symm.trans mem)
      rw [Errand.call_of_step? served.step]
      exact h.waits j e served.errand
    · rw [served.others j ji] at mem
      exact h.waits j e'' mem

end InStep

theorem Served.settle (errand : w.errands i = some e) {next : Errand × Scheduler}
    (step : e.step? w.scheduler = some next) : w.Served i e next.1 (w.settle i e next) where
  errand := errand
  step := step
  pool := rfl
  own := errands_setErrand_self ..
  others _ ne := errands_setErrand_of_ne _ _ ne
  deeds := rfl

/-- An election touches neither the storage nor the drivers, and posts nothing. -/
theorem newGrant_run (endpoint : String) (s : Scheduler) :
    ∃ grant s', (Scheduler.newGrant endpoint).run s = .ok grant s' ∧ s'.storage = s.storage ∧
      s'.fleet = s.fleet ∧ s'.bus = s.bus := ⟨_, _, rfl, rfl, rfl, rfl⟩

/-- All that a step of a life can do: the replica takes a step, or a collaborator. -/
theorem InStep.step {choice : Choice} (h : w.InStep) (step : w.step? choice = some w') :
    w'.InStep ∧ (w.Moved w' ∨ ∃ i e e', w.Served i e e' w') := by
  cases choice with
  | begin operation =>
    simp only [step?, Option.map_eq_some_iff] at step
    obtain ⟨p, step, rfl⟩ := step
    exact (h.begin operation rfl rfl rfl step).imp_right .inl
  | elect endpoint =>
    obtain ⟨grant, scheduler, elected, storage, fleet, bus⟩ := newGrant_run endpoint w.scheduler
    simp only [step?, elected, Option.map_eq_some_iff] at step
    obtain ⟨p, step, rfl⟩ := step
    exact (h.begin _ storage fleet bus step).imp_right .inl
  | advance i =>
    simp only [step?, Option.map_eq_some_iff] at step
    obtain ⟨p, step, rfl⟩ := step
    exact (h.advance step).imp_right .inl
  | serve i =>
    obtain ⟨e, errand, serves⟩ := Option.bind_eq_some_iff.mp step
    cases e with
    | done c x =>
      simp only [serve?, Option.map_eq_some_iff] at serves
      obtain ⟨p, answered, rfl⟩ := serves
      exact (h.answer errand answered).imp_right .inl
    | _ =>
      simp only [serve?, Option.map_eq_some_iff] at serves
      obtain ⟨next, proceeds, rfl⟩ := serves
      have served := Served.settle errand proceeds
      exact ⟨h.serve served, .inr ⟨i, _, _, served⟩⟩

end Life
end Tenure.Lifecycle
