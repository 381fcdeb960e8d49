import Tenure.Proofs.Provenance
import Tenure.Proofs.Readable
import Tenure.Proofs.Readiness
import Tenure.Proofs.Safekeeping

/-!
# A replica and its storage

A replica is driven by any number of callers, and its storage is the one of a scheduler. A call to
the storage is taken up at some time after it is made, and heard of at some time after that; in
between others may use the replica, and have the storage stopped. All other collaborators answer as
they like, and panic where they may.
-/
namespace Tenure

/-! ## The storage of a scheduler -/

namespace Durable

variable {d : Durable}

/-- A storage that has not been opened can be. -/
def Openable (d : Durable) : Prop := d.slot = .closed → ∃ contents, d.opening = .ok contents

/-- A storage that can be opened refuses to be made ready only if it is stopped. -/
theorem Openable.prepare (h : d.Openable) :
    (storage.prepare.run d).1 = if d.slot = .stopped then .error .stopped else .ok () := by
  rw [prepare_run]
  cases slot : d.slot with
  | opened | stopped => rfl
  | closed =>
    obtain ⟨contents, opening⟩ := h slot
    rw [opening]
    rfl

/-- What a use of a storage leaves: it can be opened if it could, and is stopped if it was or if the
use has stopped it. -/
structure After (stops : Prop) (d d' : Durable) : Prop where
  openable : d.Openable → d'.Openable
  stopped : d'.slot = .stopped ↔ d.slot = .stopped ∨ stops

theorem After.same {stops : Prop} (never : ¬ stops) : After stops d d := ⟨id, by simp [never]⟩

theorem After.write {stops : Prop} (never : ¬ stops) (opened : d.slot = .opened) (s : Store) :
    After stops d (d.write s) :=
  ⟨fun _ closed => absurd (opened.symm.trans closed) nofun, by simp [Durable.write, never]⟩

theorem after_prepare : After False d (storage.prepare.run d).2 := by
  rw [prepare_run]
  cases slot : d.slot with
  | opened | stopped => exact .same id
  | closed =>
    cases opening : d.opening with
    | error e => exact .same id
    | ok contents => exact ⟨fun _ => nofun, by simp [Durable.write, slot]⟩

theorem after_repair : After False d (repair.run d).2 := by
  rw [repair, start_run]
  cases usable : d.usable with
  | error e => exact .same id
  | ok =>
    rw [run_backfill, backfill_run]
    cases d.contents.backfill with
    | error e => exact .same id
    | ok repaired => exact .write id (slot_of_usable usable) _

theorem after_read : After False d ((storage.read (.fetch .done)).run d).2 := by
  rw [read_run]
  cases d.usable <;> exact .same id

theorem after_save (id : String) : After False d ((saveFrameworkId id).run d).2 := by
  rw [saveFrameworkId_run]
  cases usable : d.usable with
  | error e => exact .same (fun h => h)
  | ok => exact .write (fun h => h) (slot_of_usable usable) _

end Durable

namespace Lifecycle

namespace Pool

variable {rule : Rule} {schedule : List Choice} {p q : Pool} {choice : Choice} {i : Nat}
  {operation : Operation} {task : Task} {c : Call}

/-- What was done stays done. -/
structure Onward (p q : Pool) : Prop where
  trace : p.trace <+: q.trace
  tasks : ∀ (i : Nat) operation task, p.tasks[i]? = some (operation, task) →
    ∃ task', q.tasks[i]? = some (operation, task')
  tornDown : p.shared.tornDown = true → q.shared.tornDown = true

theorem Onward.refl (p : Pool) : p.Onward p := ⟨List.prefix_rfl, fun _ _ task hi => ⟨task, hi⟩, id⟩

theorem Onward.trans {r : Pool} (h : p.Onward q) (h' : q.Onward r) : p.Onward r where
  trace := h.trace.trans h'.trace
  tasks i operation task hi := by
    obtain ⟨task', hi'⟩ := h.tasks i operation task hi
    exact h'.tasks i operation task' hi'
  tornDown torn := h'.tornDown (h.tornDown torn)

theorem Onward.acts (h : p.Onward q) (i : Nat) : p.trace.acts i <+: q.trace.acts i := by
  obtain ⟨later, trace⟩ := h.trace
  exact ⟨Trace.acts i later, by rw [← trace, Trace.acts_append]⟩

theorem onward_of_step (step : p.step? choice = some q) : p.Onward q := by
  rcases step?_cases step with ⟨o, rfl, rfl⟩ | ⟨j, o, task, act, s, task', -, -, hj, moves, rfl⟩
  · refine ⟨List.prefix_rfl, fun i operation task hi => ⟨task, ?_⟩, id⟩
    rw [List.getElem?_append_left (List.getElem?_eq_some_iff.mp hi).1, hi]
  · refine ⟨List.prefix_append _ _, fun i operation task hi => ?_, fun torn => ?_⟩
    · by_cases ij : i = j
      · subst ij
        cases hj.symm.trans hi
        exact ⟨task', List.getElem?_set_self (List.getElem?_eq_some_iff.mp hj).1⟩
      · exact ⟨task, by rw [put, List.getElem?_set_ne (Ne.symm ij), hi]⟩
    · show s.tornDown = true
      rw [moves.shared]
      cases act with
      | none => exact torn
      | some e => exact (Act.tornDown_effect _ _).mpr (.inl torn)

/-- A task waits until it is answered. -/
theorem stays_of_step (step : p.step? choice = some q)
    (hi : p.tasks[i]? = some (operation, task)) (waits : task.open? = some c)
    (other : ∀ c x, choice ≠ .answer i c x) : q.tasks[i]? = some (operation, task) := by
  rcases step?_cases step with
    ⟨o, rfl, rfl⟩ | ⟨j, o, task₁, act, s, task', -, answered, hj, moves, rfl⟩
  · rw [List.getElem?_append_left (List.getElem?_eq_some_iff.mp hi).1, hi]
  · have ij : j ≠ i := by
      rintro rfl
      cases hj.symm.trans hi
      cases moves with
      | answer => exact other _ _ (answered _ _ rfl)
      | access | note | call => cases waits
    rw [put, List.getElem?_set_ne ij, hi]

/-- Only a task that waits is answered. -/
theorem open_of_answer {x : Option c.Answer} (step : p.step? (.answer i c x) = some q) :
    ∃ operation task, p.tasks[i]? = some (operation, task) ∧ task.open? = some c := by
  simp only [step?, Option.bind_eq_some_iff, Option.map_eq_some_iff, Prod.exists] at step
  obtain ⟨operation, task, hi, task', answered, -⟩ := step
  refine ⟨operation, task, hi, ?_⟩
  cases task with
  | running => cases answered
  | calling c' next =>
    simp only [Task.answer?] at answered
    split at answered
    · next same => exact congrArg some same.symm
    · cases answered

/-- An answer is put down when it is given. -/
theorem answered_of_step {x : Option c.Answer} (step : p.step? choice = some q)
    (mem : (i, .answered c x) ∈ q.trace) :
    (i, .answered c x) ∈ p.trace ∨ choice = .answer i c x := by
  rcases step?_cases step with
    ⟨o, rfl, rfl⟩ | ⟨j, o, task, act, s, task', -, answered, hj, moves, rfl⟩
  · exact .inl mem
  · rcases List.mem_append.mp mem with old | new
    · exact .inl old
    · obtain ⟨e, rfl, eq⟩ := Option.map_eq_some_iff.mp (Option.mem_toList.mp new)
      cases eq
      exact .inr (answered c x rfl)

/-- A storage is stopped in a teardown only. -/
theorem tornDown_of_stopStorage (run : Pool.run Rule.panicking schedule = some p)
    (called : .stopStorage ∈ p.trace.calls) : p.shared.tornDown = true := by
  obtain ⟨l, d, endures⟩ := Pool.endures run
  refine endures.tornDown.mpr fun none => ?_
  have closing : Call.stopStorage ∈ p.trace.calls.filter Call.isClosing :=
    List.mem_filter.mpr ⟨called, rfl⟩
  rw [endures.closing, none] at closing
  cases closing

end Pool

/-- A replica with its storage. What the storage has made of a call is kept for the task that made
it, until the task hears of it. -/
structure Housed where
  storage : Durable
  pool : Pool := {}
  ready : Nat → Option ((c : Call) × c.Answer) := fun _ => none

namespace Housed

inductive Choice where
  | begin (operation : Operation)
  | advance (i : Nat)
  /-- A collaborator answers that is not the storage. -/
  | answer (i : Nat) (c : Call) (answer : Option c.Answer)
  /-- The storage takes up the call that a task waits for. -/
  | take (i : Nat)
  /-- A task hears what the storage made of its call. -/
  | hear (i : Nat)
  /-- An identity is saved from outside. -/
  | save (id : String)

/-- The task that a choice is about. -/
def Choice.task? : Choice → Option Nat
  | begin _ | save _ => none
  | advance i | answer i _ _ | take i | hear i => some i

def setReady (w : Housed) (i : Nat) (ready : Option ((c : Call) × c.Answer)) : Housed :=
  { w with ready := fun j => if j = i then ready else w.ready j }

/-- The replica takes a step. -/
def move? (w : Housed) (choice : Lifecycle.Choice) : Option Housed :=
  (w.pool.step? choice).map fun pool => { w with pool }

def step? (w : Housed) : Choice → Option Housed
  | .begin operation => w.move? (.begin operation)
  | .advance i => w.move? (.advance i)
  | .answer i c x =>
    if c.onStorage?.isNone && Rule.panicking w.pool (.answer i c x) then w.move? (.answer i c x)
    else none
  | .take i => do
    let entry ← w.pool.tasks[i]?
    let c ← entry.2.open?
    let use ← c.onStorage?
    if (w.ready i).isNone then
      some { w.setReady i (some ⟨c, (use.run w.storage).1⟩) with storage := (use.run w.storage).2 }
    else none
  | .hear i => do
    let ⟨c, x⟩ ← w.ready i
    (w.setReady i none).move? (.answer i c (some x))
  | .save id => some { w with storage := ((Durable.saveFrameworkId id).run w.storage).2 }

def follow? (w : Housed) : List Choice → Option Housed
  | [] => some w
  | choice :: rest => (w.step? choice).bind fun w => w.follow? rest

theorem follow?_append {w w' : Housed} {first rest : List Choice}
    (h : w.follow? first = some w') : w.follow? (first ++ rest) = w'.follow? rest := by
  induction first generalizing w with
  | nil =>
    cases h
    rfl
  | cons choice first ih =>
    obtain ⟨w₁, step, h⟩ := Option.bind_eq_some_iff.mp h
    rw [List.cons_append, follow?, step]
    exact ih h

/-- What every step keeps holds to the end. -/
theorem follow_induction {motive : Housed → Prop}
    (step : ∀ w choice w', motive w → w.step? choice = some w' → motive w') {w w' : Housed}
    {schedule : List Choice} (start : motive w) (follow : w.follow? schedule = some w') :
    motive w' := by
  induction schedule generalizing w with
  | nil =>
    cases follow
    exact start
  | cons choice rest ih =>
    obtain ⟨w₁, first, follow⟩ := Option.bind_eq_some_iff.mp follow
    exact ih (step w choice w₁ start first) follow

/-- A task waits for the answer to a call. -/
def Asks (w : Housed) (i : Nat) (c : Call) : Prop :=
  ∃ operation task, w.pool.tasks[i]? = some (operation, task) ∧ task.open? = some c

theorem Asks.unique {w : Housed} {i : Nat} {c c' : Call} (h : w.Asks i c) (h' : w.Asks i c') :
    c = c' := by
  obtain ⟨operation, task, hi, waits⟩ := h
  obtain ⟨operation', task', hi', waits'⟩ := h'
  cases hi.symm.trans hi'
  exact Option.some.inj (waits.symm.trans waits')

/-! ## What a step does -/

variable {w w' : Housed} {i : Nat}

/-- All that a step can do: the replica takes one of its own, the storage takes up a call, a task
hears of it, or an identity is saved. -/
inductive Steps (w : Housed) : Choice → Housed → Prop where
  | move {choice : Choice} {own : Lifecycle.Choice} {pool : Pool}
      (permitted : Rule.panicking w.pool own = true) (step : w.pool.step? own = some pool)
      (other : ∀ i c x, own = .answer i c x → c.onStorage? = none)
      (still : ∀ i, choice ≠ .take i) :
      Steps w choice { w with pool }
  | take {i : Nat} {c : Call} {use : StateM Durable c.Answer} (asks : w.Asks i c)
      (own : c.onStorage? = some use) (idle : w.ready i = none) :
      Steps w (.take i)
        { w.setReady i (some ⟨c, (use.run w.storage).1⟩) with storage := (use.run w.storage).2 }
  | hear {i : Nat} {c : Call} {x : c.Answer} {pool : Pool} (ready : w.ready i = some ⟨c, x⟩)
      (step : w.pool.step? (.answer i c (some x)) = some pool) :
      Steps w (.hear i) { w.setReady i none with pool }
  | save (id : String) :
      Steps w (.save id) { w with storage := ((Durable.saveFrameworkId id).run w.storage).2 }

theorem steps_of_step? {choice : Choice} (h : w.step? choice = some w') :
    w.Steps choice w' := by
  cases choice with
  | begin | advance =>
    simp only [step?, move?, Option.map_eq_some_iff] at h
    obtain ⟨pool, step, rfl⟩ := h
    exact .move rfl step nofun nofun
  | answer i c x =>
    obtain ⟨permitted, h⟩ := Option.ite_none_right_eq_some.mp h
    obtain ⟨other, permitted⟩ := Bool.and_eq_true_iff.mp permitted
    obtain ⟨pool, step, rfl⟩ := Option.map_eq_some_iff.mp h
    refine .move permitted step ?_ nofun
    rintro _ _ _ ⟨⟩
    exact Option.isNone_iff_eq_none.mp other
  | take i =>
    obtain ⟨⟨operation, task⟩, hi, h⟩ := Option.bind_eq_some_iff.mp h
    obtain ⟨c, waits, h⟩ := Option.bind_eq_some_iff.mp h
    obtain ⟨use, own, h⟩ := Option.bind_eq_some_iff.mp h
    obtain ⟨idle, h⟩ := Option.ite_none_right_eq_some.mp h
    cases h
    exact .take ⟨operation, task, hi, waits⟩ own (Option.isNone_iff_eq_none.mp idle)
  | hear i =>
    obtain ⟨⟨c, x⟩, ready, h⟩ := Option.bind_eq_some_iff.mp h
    obtain ⟨pool, step, rfl⟩ := Option.map_eq_some_iff.mp h
    exact .hear ready step
  | save id =>
    cases h
    exact .save id

/-- What the storage makes of a call leaves it stopped only if the call asks for that. -/
theorem after_use {d : Durable} {c : Call} {use : StateM Durable c.Answer}
    (own : c.onStorage? = some use) : Durable.After (c = .stopStorage) d (use.run d).2 := by
  have other {use' : StateM Durable c.Answer} (same : c.onStorage? = some use')
      (other : c ≠ .stopStorage) (after : Durable.After False d (use'.run d).2) :
      Durable.After (c = .stopStorage) d (use.run d).2 := by
    cases own.symm.trans same
    exact ⟨after.openable, by rw [after.stopped]; simp [other]⟩
  cases c with
  | prepareStorage => exact other rfl nofun Durable.after_prepare
  | repairStorage => exact other rfl nofun Durable.after_repair
  | readFrameworkId => exact other rfl nofun Durable.after_read
  | stopStorage =>
    cases own
    exact ⟨fun _ => nofun, by simp; rfl⟩
  | _ => cases own

/-! ## What always holds -/

/-- The replica runs as any does, what is ready answers a call that is open, and the storage fails
only when a teardown has begun. -/
structure Sound (w : Housed) : Prop where
  run : ∃ schedule, Pool.run Rule.panicking schedule = some w.pool
  waits : ∀ i c x, w.ready i = some ⟨c, x⟩ → c.onStorage?.isSome = true ∧ w.Asks i c
  openable : w.storage.Openable
  stopped : w.storage.slot = .stopped → w.pool.shared.tornDown = true
  failed : ∀ i e, w.ready i = some ⟨.prepareStorage, .error e⟩ → w.pool.shared.tornDown = true

theorem Sound.start {d : Durable} (openable : d.Openable) (unstopped : d.slot ≠ .stopped) :
    Sound { storage := d } :=
  ⟨⟨[], rfl⟩, nofun, openable, fun stopped => (unstopped stopped).elim, nofun⟩

/-- What is ready stays so while its task is not answered. -/
theorem Sound.waits_of_step (h : w.Sound) {own : Lifecycle.Choice} {pool : Pool}
    (step : w.pool.step? own = some pool) {i : Nat} {c : Call} {x : c.Answer}
    (ready : w.ready i = some ⟨c, x⟩) (other : ∀ c' y, own ≠ .answer i c' y) :
    c.onStorage?.isSome = true ∧ ({ w with pool } : Housed).Asks i c := by
  obtain ⟨stored, operation, task, hi, waits⟩ := h.waits i c x ready
  exact ⟨stored, operation, task, Pool.stays_of_step step hi waits other, waits⟩

theorem Sound.step {choice : Choice} (h : w.Sound) (moved : w.step? choice = some w') :
    w'.Sound := by
  obtain ⟨schedule, run⟩ := h.run
  cases steps_of_step? moved with
  | @move _ own pool permitted step other =>
    have onward := Pool.onward_of_step step
    refine ⟨⟨_, Pool.run_append run permitted step⟩, fun i c x ready => ?_, h.openable,
      fun stopped => onward.tornDown (h.stopped stopped),
      fun i e ready => onward.tornDown (h.failed i e ready)⟩
    refine h.waits_of_step step ready ?_
    -- The call that is open is one to the storage, and is not answered by anybody else.
    rintro c' y rfl
    obtain ⟨stored, asks⟩ := h.waits i c x ready
    obtain rfl : c' = c := (show w.Asks i c' from Pool.open_of_answer step).unique asks
    rw [other i c' y rfl] at stored
    cases stored
  | @take i c use asks own idle =>
    have after := after_use own (d := w.storage)
    have torn (stops : c = .stopStorage) : w.pool.shared.tornDown = true := by
      obtain ⟨operation, task, hi, waits⟩ := asks
      exact Pool.tornDown_of_stopStorage run
        (stops ▸ Pool.mem_calls_of_open run hi waits)
    refine ⟨⟨_, run⟩, fun j c' x ready => ?_, after.openable h.openable, fun stopped => ?_,
      fun j e ready => ?_⟩
    · by_cases ji : j = i
      · subst ji
        cases (if_pos rfl).symm.trans ready
        exact ⟨by rw [own]; rfl, asks⟩
      · exact h.waits j c' x ((if_neg ji).symm.trans ready)
    · exact (after.stopped.mp stopped).elim h.stopped torn
    · by_cases ji : j = i
      · subst ji
        obtain ⟨rfl, same⟩ := Sigma.mk.inj (Option.some.inj ((if_pos rfl).symm.trans ready))
        cases own
        have refused := (h.openable.prepare).symm.trans (eq_of_heq same)
        exact h.stopped (by_contra fun unstopped => by simp [unstopped] at refused)
      · exact h.failed j e ((if_neg ji).symm.trans ready)
  | @hear i c x pool ready step =>
    have onward := Pool.onward_of_step step
    refine ⟨⟨_, Pool.run_append run rfl step⟩, fun j c' x' ready' => ?_, h.openable,
      fun stopped => onward.tornDown (h.stopped stopped), fun j e ready' => ?_⟩
    · by_cases ji : j = i
      · cases (if_pos ji).symm.trans ready'
      · refine h.waits_of_step step ((if_neg ji).symm.trans ready') ?_
        rintro _ _ ⟨⟩
        exact ji rfl
    · by_cases ji : j = i
      · cases (if_pos ji).symm.trans ready'
      · exact onward.tornDown (h.failed j e ((if_neg ji).symm.trans ready'))
  | save id =>
    have after := Durable.after_save id (d := w.storage)
    exact ⟨h.run, h.waits, after.openable h.openable,
      fun stopped => h.stopped (by simpa using after.stopped.mp stopped), h.failed⟩

theorem onward_of_step {choice : Choice} (moved : w.step? choice = some w') :
    w.pool.Onward w'.pool := by
  cases steps_of_step? moved with
  | move permitted step => exact Pool.onward_of_step step
  | take | save => exact .refl _
  | hear ready step => exact Pool.onward_of_step step

theorem onward_of_follow {schedule : List Choice} (follow : w.follow? schedule = some w') :
    w.pool.Onward w'.pool :=
  follow_induction (motive := fun w' => w.pool.Onward w'.pool)
    (fun _ _ _ onward step => onward.trans (onward_of_step step)) (.refl _) follow

/-! ## When the storage takes up a call -/

theorem exists_last {first : List Choice} {last : Choice}
    (follow : w.follow? (first ++ [last]) = some w') :
    ∃ w₁, w.follow? first = some w₁ ∧ w₁.step? last = some w' := by
  induction first generalizing w with
  | nil =>
    obtain ⟨w₁, step, done⟩ := Option.bind_eq_some_iff.mp follow
    cases done
    exact ⟨w, rfl, step⟩
  | cons choice first ih =>
    obtain ⟨w₁, step, follow⟩ := Option.bind_eq_some_iff.mp follow
    obtain ⟨w₂, follow, last⟩ := ih follow
    exact ⟨w₂, by rw [follow?, step]; exact follow, last⟩

/-- In the course of a schedule from a storage `d`, after what comes first, the storage takes up a
call. -/
structure Takes (d : Durable) (schedule : List Choice) (i : Nat) (c : Call) (first : List Choice)
    (w : Housed) : Prop where
  follow : ({ storage := d } : Housed).follow? first = some w
  next : first ++ [.take i] <+: schedule
  asks : w.Asks i c

theorem takes_concat_iff {d : Durable} {schedule first : List Choice} {choice : Choice} {c : Call} :
    Takes d (schedule ++ [choice]) i c first w ↔
      Takes d schedule i c first w ∨
        (first = schedule ∧ choice = .take i ∧
          ({ storage := d } : Housed).follow? schedule = some w ∧ w.Asks i c) := by
  constructor
  · rintro ⟨follow, next, asks⟩
    rcases List.prefix_concat_iff.mp next with same | next
    · obtain ⟨rfl, last⟩ := List.append_inj' same rfl
      exact .inr ⟨rfl, (List.singleton_inj.mp last).symm, follow, asks⟩
    · exact .inl ⟨follow, next, asks⟩
  · rintro (⟨follow, next, asks⟩ | ⟨rfl, rfl, follow, asks⟩)
    · exact ⟨follow, next.trans (List.prefix_append _ _), asks⟩
    · exact ⟨follow, List.prefix_rfl, asks⟩

/-- In the course of a schedule the storage takes up a call to stop. -/
def Stops (d : Durable) (schedule : List Choice) : Prop :=
  ∃ i first w, Takes d schedule i .stopStorage first w

/-- What a task is told, or is about to be, is what the storage made of its call when it took it
up. -/
theorem exists_takes {d : Durable} {schedule : List Choice} {c : Call}
    {use : StateM Durable c.Answer} (own : c.onStorage? = some use) {x : c.Answer}
    (follow : ({ storage := d } : Housed).follow? schedule = some w)
    (told : w.ready i = some ⟨c, x⟩ ∨ (i, .answered c (some x)) ∈ w.pool.trace) :
    ∃ first w₁, Takes d schedule i c first w₁ ∧ x = (use.run w₁.storage).1 := by
  induction schedule using List.reverseRecOn generalizing w with
  | nil =>
    cases follow
    rcases told with ready | answered
    · cases ready
    · cases answered
  | append_singleton schedule choice ih =>
    obtain ⟨w₁, follow₁, moved⟩ := exists_last follow
    have earlier (told : w₁.ready i = some ⟨c, x⟩ ∨ (i, .answered c (some x)) ∈ w₁.pool.trace) :
        ∃ first w₂, Takes d (schedule ++ [choice]) i c first w₂ ∧ x = (use.run w₂.storage).1 := by
      obtain ⟨first, w₂, takes, made⟩ := ih follow₁ told
      exact ⟨first, w₂, takes_concat_iff.mpr (.inl takes), made⟩
    cases steps_of_step? moved with
    | @move _ own' pool permitted step other =>
      refine earlier (told.imp_right fun answered => ?_)
      rcases Pool.answered_of_step step answered with old | rfl
      · exact old
      · cases own.symm.trans (other i c (some x) rfl)
    | @take j c' use' asks own' idle =>
      by_cases ij : i = j
      · subst ij
        rcases told with ready | answered
        · obtain ⟨rfl, same⟩ := Sigma.mk.inj (Option.some.inj ((if_pos rfl).symm.trans ready))
          cases own.symm.trans own'
          exact ⟨schedule, w₁, takes_concat_iff.mpr (.inr ⟨rfl, rfl, follow₁, asks⟩),
            (eq_of_heq same).symm⟩
        · exact earlier (.inr answered)
      · exact earlier (told.imp_left fun ready => (if_neg ij).symm.trans ready)
    | @hear j c' x' pool ready step =>
      rcases told with ready' | answered
      · by_cases ij : i = j
        · cases (if_pos ij).symm.trans ready'
        · exact earlier (.inl ((if_neg ij).symm.trans ready'))
      · rcases Pool.answered_of_step step answered with old | same
        · exact earlier (.inr old)
        · cases same
          exact earlier (.inl ready)
    | save => exact earlier told

/-- The storage is stopped just if it has taken up a call for that. -/
theorem stopped_iff {d : Durable} (unstopped : d.slot ≠ .stopped) {schedule : List Choice}
    (follow : ({ storage := d } : Housed).follow? schedule = some w) :
    w.storage.slot = .stopped ↔ Stops d schedule := by
  induction schedule using List.reverseRecOn generalizing w with
  | nil =>
    cases follow
    refine ⟨fun stopped => (unstopped stopped).elim, ?_⟩
    rintro ⟨i, first, w₁, takes⟩
    have := List.prefix_nil.mp takes.next
    simp at this
  | append_singleton schedule choice ih =>
    obtain ⟨w₁, follow₁, moved⟩ := exists_last follow
    have ih := ih follow₁
    -- Nothing but a call that is taken up for that stops the storage.
    have same (same : w.storage.slot = .stopped ↔ w₁.storage.slot = .stopped)
        (still : ∀ i, choice = .take i → ¬ w₁.Asks i .stopStorage) :
        w.storage.slot = .stopped ↔ Stops d (schedule ++ [choice]) := by
      rw [same, ih]
      constructor
      · rintro ⟨i, first, w₂, takes⟩
        exact ⟨i, first, w₂, takes_concat_iff.mpr (.inl takes)⟩
      · rintro ⟨i, first, w₂, takes⟩
        rcases takes_concat_iff.mp takes with earlier | ⟨-, taken, follow₂, asks⟩
        · exact ⟨i, first, w₂, earlier⟩
        · cases follow₁.symm.trans follow₂
          exact (still i taken asks).elim
    cases steps_of_step? moved with
    | move permitted step other still => exact same .rfl fun i taken => (still i taken).elim
    | @take j c use asks own idle =>
      have after := after_use own (d := w₁.storage)
      by_cases stops : c = .stopStorage
      · subst stops
        refine ⟨fun _ => ⟨j, schedule, w₁, ?_⟩, fun _ => after.stopped.mpr (.inr rfl)⟩
        exact takes_concat_iff.mpr (.inr ⟨rfl, rfl, follow₁, asks⟩)
      · refine same (after.stopped.trans (by simp [stops])) ?_
        rintro i ⟨⟩ asks'
        exact stops (asks.unique asks')
    | hear => exact same .rfl nofun
    | save id => exact same ((Durable.after_save id).stopped.trans (by simp)) nofun

end Housed
end Lifecycle
end Tenure
