import Tenure.Proofs.Ascent

/-!
# A scheduler comes up among its messages

A scheduler that is assembled is told to lead once. Two receivers hear what is posted on its bus,
by its driver, by the replica or by anybody else: one confirms registrations, and one makes a
registered leader active. Each begins an operation for a message that concerns it and receives on
when that is over. All take their steps in any order, as in `Life`.

A receiver whose message is on the bus, or whose operation is about to ask for the move, will have
had the move made.
-/
namespace Tenure

/-! ## Messages that wait -/

namespace Bus

variable {α : Type} {b b' : Bus α} {k : Nat} {q : α → Bool}

/-- No receiver is ahead of the bus. -/
def Paced (b : Bus α) : Prop := ∀ cursor ∈ b.cursors, cursor ≤ b.tail

/-- A receiver has lost messages, or has one of a kind to come. -/
def Owes (b : Bus α) (k : Nat) (q : α → Bool) : Prop :=
  ∃ cursor, b.cursors[k]? = some cursor ∧
    (0 < b.missed cursor ∨ ∃ m ∈ b.waiting cursor, q m = true)

theorem tail_keep (b : Bus α) (m : α) : (b.keep m).tail = b.tail + 1 := by
  simp only [tail, keep, List.length_drop, List.length_append, List.length_singleton]
  omega

/-- A receiver that has lost nothing has a new message beside those before. -/
theorem waiting_keep {cursor : Nat} (paced : cursor ≤ b.tail) {m : α}
    (kept : (b.keep m).missed cursor = 0) :
    (b.keep m).waiting cursor = b.waiting cursor ++ [m] := by
  -- It is not behind what the bus drops, so nothing of what it waits for is dropped.
  simp only [tail] at paced
  simp only [missed, keep] at kept
  simp only [waiting, keep, List.drop_drop]
  generalize (b.retained ++ [m]).length - b.capacity = surplus at kept ⊢
  rw [show surplus + (cursor - (b.dropped + surplus)) = cursor - b.dropped by omega,
    List.drop_append_of_le_length (by omega)]

theorem cursors_post (b : Bus α) (m : α) : (b.post m).cursors = b.cursors := by
  rw [post]
  split <;> rfl

theorem Paced.post (h : b.Paced) (m : α) : (b.post m).Paced := by
  intro cursor mem
  rw [cursors_post] at mem
  have le := h cursor mem
  rw [Bus.post]
  split
  · exact le
  · rw [tail_keep]
    exact Nat.le_succ_of_le le

theorem post_of_cursor {cursor : Nat} (receives : b.cursors[k]? = some cursor) (m : α) :
    b.post m = b.keep m := by
  have some : b.cursors.isEmpty = false := by
    rw [List.isEmpty_eq_false_iff_exists_mem]
    exact ⟨cursor, List.mem_of_getElem? receives⟩
  simp [post, some]

/-- What is posted waits. -/
theorem owes_post (paced : b.Paced) {cursor : Nat} (receives : b.cursors[k]? = some cursor) {m : α}
    (kind : q m = true) : (b.post m).Owes k q := by
  refine ⟨cursor, by rw [cursors_post, receives], ?_⟩
  rw [post_of_cursor receives]
  by_cases kept : (b.keep m).missed cursor = 0
  · rw [waiting_keep (paced cursor (List.mem_of_getElem? receives)) kept]
    exact .inr ⟨m, List.mem_append_right _ (List.mem_singleton_self m), kind⟩
  · exact .inl (Nat.pos_of_ne_zero kept)

/-- What waits goes on waiting. -/
theorem Owes.post (h : b.Owes k q) (paced : b.Paced) (m : α) : (b.post m).Owes k q := by
  obtain ⟨cursor, receives, owed⟩ := h
  refine ⟨cursor, by rw [cursors_post, receives], ?_⟩
  rw [post_of_cursor receives]
  by_cases kept : (b.keep m).missed cursor = 0
  · rw [waiting_keep (paced cursor (List.mem_of_getElem? receives)) kept]
    rcases owed with missed | ⟨m', mem, kind⟩
    · simp only [Bus.missed, keep] at missed kept
      omega
    · exact .inr ⟨m', List.mem_append_left _ mem, kind⟩
  · exact .inl (Nat.pos_of_ne_zero kept)

/-- All that becomes of a bus when a receiver gets a message. -/
theorem receive_message {m : α} (h : b.receive k = some (.message m, b')) :
    ∃ cursor rest, b.cursors[k]? = some cursor ∧ b.missed cursor = 0 ∧
      b.waiting cursor = m :: rest ∧ b' = { b with cursors := b.cursors.set k (cursor + 1) } := by
  obtain ⟨cursor, receives, eq⟩ := Option.map_eq_some_iff.mp h
  rw [next] at eq
  by_cases lost : 0 < b.missed cursor
  · rw [if_pos lost] at eq
    cases eq
  rw [if_neg lost] at eq
  cases waits : b.waiting cursor with
  | nil =>
    rw [waits] at eq
    cases closed : b.closed <;> simp [closed] at eq
  | cons m' rest =>
    rw [waits] at eq
    cases eq
    exact ⟨cursor, rest, receives, by omega, waits, rfl⟩

theorem Paced.receive (h : b.Paced) {m : α} (received : b.receive k = some (.message m, b')) :
    b'.Paced := by
  obtain ⟨cursor, rest, receives, kept, waits, rfl⟩ := receive_message received
  intro cursor' mem
  rcases List.mem_or_eq_of_mem_set mem with old | rfl
  · exact h cursor' old
  · have waiting := congrArg List.length waits
    simp only [Bus.waiting, List.length_drop, List.length_cons] at waiting
    simp only [missed] at kept
    simp only [tail]
    omega

/-- A receiver that gets a message has fewer to come, and others have what they had. -/
theorem Owes.receive {j : Nat} (h : b.Owes k q) {m : α}
    (received : b.receive j = some (.message m, b')) : b'.Owes k q ∨ j = k ∧ q m = true := by
  obtain ⟨cursor, rest, receives, kept, waits, rfl⟩ := receive_message received
  obtain ⟨cursor', receives', owed⟩ := h
  by_cases same : j = k
  · subst same
    obtain rfl : cursor = cursor' := Option.some.inj (receives.symm.trans receives')
    obtain ⟨m', mem, kind⟩ := owed.resolve_left (by omega)
    rw [waits] at mem
    rcases List.mem_cons.mp mem with rfl | mem
    · exact .inr ⟨rfl, kind⟩
    · refine .inl ⟨cursor + 1, ?_, .inr ⟨m', ?_, kind⟩⟩
      · exact List.getElem?_set_self (List.getElem?_eq_some_iff.mp receives).1
      · have next : b.waiting (cursor + 1) = (b.waiting cursor).tail := by
          simp only [missed] at kept
          simp only [waiting, List.tail_drop]
          congr 1
          omega
        show m' ∈ b.waiting (cursor + 1)
        rw [next, waits]
        exact mem
  · exact .inl ⟨cursor', (List.getElem?_set_ne same).trans receives', owed⟩

/-- A receiver for which there is nothing is owed nothing. -/
theorem not_owes_of_empty (h : b.receive k = some (.empty, b')) : ¬ b.Owes k q := by
  obtain ⟨cursor, receives, eq⟩ := Option.map_eq_some_iff.mp h
  rintro ⟨cursor', receives', owed⟩
  obtain rfl : cursor = cursor' := Option.some.inj (receives.symm.trans receives')
  rw [next] at eq
  by_cases lost : 0 < b.missed cursor
  · rw [if_pos lost] at eq
    cases eq
  rw [if_neg lost] at eq
  obtain ⟨m, mem, -⟩ := owed.resolve_left lost
  cases waits : b.waiting cursor with
  | nil =>
    rw [waits] at mem
    cases mem
  | cons m' rest =>
    rw [waits] at eq
    cases eq

end Bus

/-- A state is reached from the one before it. -/
theorem Edge.isSome_between?_of_rank {source target : State}
    (next : target.rank = source.rank + 1) : (between? source target).isSome = true := by
  cases source <;> cases target <;> first | rfl | cases next

namespace Lifecycle

open Standalone (Errand Scheduler)

/-! ## Receivers -/

/-- Who hears what is posted. -/
inductive Receiver where
  | registrations
  | activations
  deriving DecidableEq

namespace Receiver

def number : Receiver → Nat
  | registrations => Scheduler.registrations
  | activations => Scheduler.activations

/-- The operation that a receiver begins for an event, if the event concerns it. -/
def reaction? : Receiver → Event → Option Operation
  | registrations, .driverRegistered id => some (.registered id)
  | activations, .schedulerActive => some (.request .active)
  | _, _ => none

/-- The state that a receiver asks for. -/
def target : Receiver → State
  | registrations => .registeredLeader
  | activations => .active

def hears (k : Receiver) (event : Event) : Bool := (k.reaction? event).isSome

theorem number_injective {j k : Receiver} (h : j.number = k.number) : j = k := by
  cases j <;> cases k <;> first | rfl | cases h

end Receiver

/-! ## A scheduler that comes up -/

/-- How far the scheduler has come with what it was told, and with which task. -/
inductive Lead where
  | untold
  | preparing (i : Nat)
  | leading (i : Nat) (grant : Grant)

structure Rise where
  life : Life
  lead : Lead := .untold
  /-- The operation that each receiver has begun last. -/
  busy : Receiver → Option Nat := fun _ => none

namespace Rise

inductive Choice where
  /-- The scheduler is told to lead, and has itself made ready. -/
  | prepare
  /-- It is ready, and its election makes a grant and offers it. -/
  | elect (endpoint : String)
  | advance (i : Nat)
  | serve (i : Nat)
  | receive (k : Receiver)
  /-- Somebody else posts. -/
  | post (event : Event)
  /-- A driver is over, and the join that waits for it comes to an end. -/
  | exit (driver : DriverId)

/-- Whether a receiver is through with what it has begun. -/
def isFree (r : Rise) (k : Receiver) : Bool :=
  (r.busy k).all fun i => (r.life.pool.tasks[i]?).all fun entry => entry.2.isOver

/-- Goes on with a life in place of the one before. -/
def live (r : Rise) (life : Life) : Rise := { r with life }

def onBus (w : Life) (bus : Bus Event) : Life :=
  { w with scheduler := { w.scheduler with bus } }

/-- A receiver gets an event, and begins the operation for it if there is one. -/
def react? (r : Rise) (k : Receiver) (event : Event) : Option Rise :=
  match k.reaction? event with
  | none => some r
  | some operation => (r.life.step? (.begin operation)).map fun life =>
    { r with life, busy := fun j => if j = k then some r.life.pool.tasks.length else r.busy j }

/-- There is no step for a receiver that has lost messages. -/
def step? (r : Rise) : Choice → Option Rise
  | .prepare =>
    match r.lead with
    | .untold => (r.life.step? (.begin .prepare)).map fun life =>
      { r with life, lead := .preparing r.life.pool.tasks.length }
    | _ => none
  | .elect endpoint =>
    match r.lead, (Scheduler.newGrant endpoint).run r.life.scheduler with
    | .preparing i, .ok grant _ =>
      if r.life.pool.outcome? i = some (.ok ()) then
        (r.life.step? (.elect endpoint)).map fun life =>
          { r with life, lead := .leading r.life.pool.tasks.length grant }
      else none
    | _, _ => none
  | .advance i => (r.life.step? (.advance i)).map r.live
  | .serve i => (r.life.step? (.serve i)).map r.live
  | .receive k =>
    if r.isFree k then
      (r.life.scheduler.bus.receive k.number).bind fun received =>
        match received with
        | (.message event, bus) => (r.live (onBus r.life bus)).react? k event
        | _ => none
    else none
  | .post event => some (r.live (onBus r.life (r.life.scheduler.bus.post event)))
  | .exit driver =>
    if driver ∈ r.life.scheduler.joins ∧
        (r.life.scheduler.fleet.join? driver.index).isSome = true then
      (r.life.step? (.begin (.runOut (.join driver)))).map r.live
    else none

def follow? (r : Rise) : List Choice → Option Rise
  | [] => some r
  | choice :: rest => (r.step? choice).bind fun r => r.follow? rest

/-- What every step keeps holds to the end. -/
theorem follow_induction {motive : Rise → Prop}
    (step : ∀ r choice r', motive r → r.step? choice = some r' → motive r') {r r' : Rise}
    {schedule : List Choice} (start : motive r) (follow : r.follow? schedule = some r') :
    motive r' := by
  induction schedule generalizing r with
  | nil =>
    cases follow
    exact start
  | cons choice rest ih =>
    obtain ⟨r'', first, follow⟩ := Option.bind_eq_some_iff.mp follow
    exact ih (step r choice r'' start first) follow

/-- What the scheduler has come to with what it was told: an error, or the grant that it has. -/
def returned? (r : Rise) : Option (Except LifecycleError Grant) :=
  match r.lead with
  | .untold => none
  | .preparing i =>
    match r.life.pool.outcome? i with
    | some (.error e) => some (.error e)
    | _ => none
  | .leading i grant => (r.life.pool.outcome? i).map fun outcome => outcome.map fun () => grant

/-- Whether a receiver has lost no message, has none to come, and is through with those it had. -/
def isDone (r : Rise) (k : Receiver) : Bool :=
  r.isFree k && (r.life.scheduler.bus.receive k.number).any fun received => received.1 = .empty

/-! ## Moves that are on their way -/

end Rise

/-- Whether a program asks for a state before it does anything else. -/
def Program.asksFirst (target : State) {α : Type} : Program α → Bool
  | access (.install t) _ => t = target
  | note _ next => next.asksFirst target
  | _ => false

/-- Whether a task is about to ask for a state. -/
def Task.isPoised (target : State) : Task → Bool
  | running rest => rest.asksFirst target
  | calling _ _ => false

theorem Task.not_isOver_of_isPoised {task : Task} {target : State}
    (h : task.isPoised target = true) : task.isOver = false := by
  cases task with
  | calling => cases h
  | running rest =>
    cases rest with
    | done | unwind => cases h
    | access | note | call => rfl

/-- A task has asked for the state that it was about to ask for, and the replica is there. -/
theorem Pool.Moves.isPoised {s s' : Shared} {task task' : Task} {act : Option Act} {target : State}
    (moves : Moves s task act s' task') (poised : task.isPoised target = true)
    (near : target.rank ≤ s.state.rank + 1) :
    task'.isPoised target = true ∨ target.rank ≤ s'.state.rank := by
  cases moves with
  | @access a next x _ apply =>
    cases a with
    | install t =>
      obtain rfl : t = target := of_decide_eq_true poised
      refine .inr ?_
      rcases Access.apply_install apply with ⟨edge, -, -, rfl⟩ | ⟨none, -, rfl⟩
      · exact Nat.le_refl _
      · -- The table refuses only what is not next, and the target is next or was reached.
        refine Nat.le_of_not_lt fun lt => ?_
        have some := Edge.isSome_between?_of_rank (Nat.le_antisymm near lt)
        rw [none] at some
        cases some
    | _ => cases poised
  | note => exact .inl poised
  | call | answer => cases poised

namespace Rise

/-- The move of a receiver is near, and is made, or will have been when the receiver is done. -/
structure Delivers (r : Rise) (k : Receiver) : Prop where
  near : k.target.rank ≤ r.life.pool.shared.state.rank + 1
  moves : k.target.rank ≤ r.life.pool.shared.state.rank ∨
    r.life.scheduler.bus.Owes k.number k.hears ∨
    ∃ i o task, r.busy k = some i ∧ r.life.pool.tasks[i]? = some (o, task) ∧
      task.isPoised k.target = true

end Rise
end Lifecycle
end Tenure
