import Tenure.Proofs.Adequacy
import Tenure.Proofs.Alone

/-!
# The moments of a run

Every entry of a trace was put down at a moment of the run: there was a pool with the entries
before it for its trace, and a task that moved. So what is known of all runs is known of every
moment of one. The state of the replica at a moment is told by the trace before it.
-/
namespace Tenure.Lifecycle

namespace Trace

/-- The states that were installed. -/
def installed (t : Trace) : List State := t.filterMap fun entry => entry.2.installs?

/-- The state after a trace. -/
def state (t : Trace) : State := t.installed.getLast?.getD .idle

theorem installed_append (t t' : Trace) : (t ++ t').installed = t.installed ++ t'.installed :=
  List.filterMap_append

theorem installed_append_self (i : Nat) (t : Trace) (e : Act) :
    (t ++ [(i, e)]).installed = t.installed ++ e.installs?.toList :=
  filterMap_append_singleton (fun entry : Nat × Act => entry.2.installs?) t (i, e)

theorem state_append_self (i : Nat) (t : Trace) (e : Act) :
    (t ++ [(i, e)]).state = e.installs?.getD t.state := by
  rw [state, installed_append_self]
  cases e.installs? <;> simp [state]

theorem calls_append (t t' : Trace) : (t ++ t').calls = t.calls ++ t'.calls :=
  List.filterMap_append

theorem exists_split_of_mem_calls {t : Trace} {c : Call} (mem : c ∈ t.calls) :
    ∃ i before after, t = before ++ (i, .called c) :: after := by
  obtain ⟨⟨i, e⟩, mem, call⟩ := List.mem_filterMap.mp mem
  obtain ⟨before, after, rfl⟩ := List.append_of_mem mem
  cases e with
  | called c' =>
    obtain rfl : c' = c := Option.some.inj call
    exact ⟨i, before, after, rfl⟩
  | accessed | answered => cases call

end Trace

namespace Pool

variable {rule : Rule} {schedule : List Choice} {p : Pool} {i : Nat} {e : Act}

/-! ## What a step puts down -/

theorem trace_put (p : Pool) (i : Nat) (o : Operation) (act : Option Act) (s : Shared)
    (task : Task) : (p.put i o act s task).trace = p.trace ++ (act.map fun e => (i, e)).toList :=
  rfl

theorem Moves.shared {s s' : Shared} {task task' : Task} {act : Option Act}
    (h : Moves s task act s' task') : s' = (act.map (Act.effect s)).getD s := by
  cases h with
  | access apply => exact Act.effect_of_apply apply
  | note | call | answer => rfl

theorem Moves.possible {s s' : Shared} {task task' : Task} (h : Moves s task (some e) s' task') :
    e.Possible s := by
  cases h with
  | access apply => exact ⟨_, apply⟩
  | call | answer => trivial

/-- The trace tells the state. -/
theorem state_trace (run : Pool.run rule schedule = some p) : p.trace.state = p.shared.state := by
  refine run_induction (motive := fun p => p.trace.state = p.shared.state) rfl
    (fun p q choice ih _ step => ?_) run
  rcases step?_cases step with ⟨o, rfl, rfl⟩ | ⟨i, o, task, act, s, task', -, -, -, moves, rfl⟩
  · exact ih
  · rw [trace_put]
    show _ = s.state
    rw [moves.shared]
    cases act with
    | none => simpa using ih
    | some e =>
      show (p.trace ++ [(i, e)]).state = (e.effect p.shared).state
      rw [Trace.state_append_self, Act.effect_state, ih]

theorem known (run : Pool.run rule schedule = some p) :
    ∀ entry ∈ p.trace, entry.1 < p.tasks.length := by
  refine run_induction (motive := fun p => ∀ entry ∈ p.trace, entry.1 < p.tasks.length) (by simp)
    (fun p q choice ih _ step entry mem => ?_) run
  rcases step?_cases step with ⟨o, rfl, rfl⟩ | ⟨i, o, task, act, s, task', -, -, hi, -, rfl⟩
  · have := ih entry mem
    simp
    omega
  · rw [trace_put, List.mem_append] at mem
    simp only [put, List.length_set]
    rcases mem with old | new
    · exact ih entry old
    · cases act with
      | none => simp at new
      | some e =>
        obtain rfl : entry = (i, e) := by simpa using new
        exact (List.getElem?_eq_some_iff.mp hi).1

/-! ## Moments -/

/-- A pool of a run at which a task does something after the trace `before`. -/
structure Moment (rule : Rule) (before : Trace) (i : Nat) (e : Act) (q : Pool)
    (operation : Operation) (task : Task) : Prop where
  run : ∃ schedule, Pool.run rule schedule = some q
  trace : q.trace = before
  permitted : ∃ choice, rule q choice = true ∧ mover choice = some i
  held : q.tasks[i]? = some (operation, task)
  moves : ∃ s task', Moves q.shared task (some e) s task'

/-- Every entry of a trace was put down at a moment of the run. -/
theorem moment (run : Pool.run rule schedule = some p) {before after : Trace}
    (split : p.trace = before ++ (i, e) :: after) :
    ∃ q operation task, Moment rule before i e q operation task := by
  refine (run_induction (motive := fun p => (∃ schedule, Pool.run rule schedule = some p) ∧
    ∀ before after i e, p.trace = before ++ (i, e) :: after →
      ∃ q operation task, Moment rule before i e q operation task)
    ⟨⟨[], rfl⟩, fun _ _ _ _ split => by simp at split⟩
    (fun p q choice ih permitted step => ?_) run).2 before after i e split
  obtain ⟨⟨schedule, run⟩, earlier⟩ := ih
  refine ⟨⟨_, run_append run permitted step⟩, fun before after i e split => ?_⟩
  rcases step?_cases step with ⟨o, rfl, rfl⟩ | ⟨j, o, task, act, s, task', mover, -, hj, moves, rfl⟩
  · exact earlier before after i e split
  · rw [trace_put] at split
    cases act with
    | none => exact earlier before after i e (by simpa using split)
    | some e' =>
      -- Either the entry is the one that was just put down, or it was there before.
      rcases after.eq_nil_or_concat with rfl | ⟨after, last, rfl⟩
      · obtain ⟨rfl, same⟩ := List.append_inj' split rfl
        cases same
        exact ⟨p, o, task, ⟨schedule, run⟩, rfl, ⟨choice, permitted, mover⟩, hj, s, task', moves⟩
      · rw [List.concat_eq_append, ← List.cons_append, ← List.append_assoc] at split
        exact earlier before after i e (List.append_inj' split rfl).1

/-- The state at a moment is told by the trace before it. -/
theorem Moment.state {before : Trace} {q : Pool} {o : Operation} {task : Task}
    (h : Moment rule before i e q o task) : q.shared.state = before.state := by
  obtain ⟨schedule, run⟩ := h.run
  rw [← state_trace run, h.trace]

/-- An access has the answer that the variables give at its moment. -/
theorem Moment.apply {before : Trace} {a : Access} {x : a.Answer} {q : Pool} {o : Operation}
    {task : Task} (h : Moment rule before i (.accessed a x) q o task) :
    ∃ s, a.apply q.shared = some (x, s) := by
  obtain ⟨s, task', moves⟩ := h.moves
  exact moves.possible

theorem Moment.state_of_readState {before : Trace} {s : State} {q : Pool} {o : Operation}
    {task : Task} (h : Moment rule before i (.accessed .readState s) q o task) :
    q.shared.state = s := by
  obtain ⟨s', apply⟩ := h.apply
  exact congrArg Prod.fst (Option.some.inj apply)

theorem Moment.slot_of_readSlot {before : Trace} {held : Option Grant} {q : Pool} {o : Operation}
    {task : Task} (h : Moment rule before i (.accessed .readSlot held) q o task) :
    q.shared.slot = held := by
  obtain ⟨s', apply⟩ := h.apply
  exact congrArg Prod.fst (Option.some.inj apply)

/-! ## Re-entrant runs -/

/-- A task that is neither over nor inside a call has done the last thing that was done. -/
theorem getLast?_trace_of_busy (run : Pool.run Rule.reentrant schedule = some p)
    {o : Operation} {task : Task} (hi : p.tasks[i]? = some (o, task))
    (busy : task.isAside = false) (last : (p.trace.acts i).getLast? = some e) :
    p.trace.getLast? = some (i, e) := by
  refine (run_induction
    (motive := fun p => (∃ schedule, Pool.run Rule.reentrant schedule = some p) ∧ ∀ i o task e,
      p.tasks[i]? = some (o, task) → task.isAside = false →
        (p.trace.acts i).getLast? = some e → p.trace.getLast? = some (i, e))
    ⟨⟨[], rfl⟩, fun _ _ _ _ none => by simp at none⟩ (fun p q choice ih permitted step => ?_)
    run).2 i o task e hi busy last
  obtain ⟨⟨schedule, run⟩, ih⟩ := ih
  refine ⟨⟨_, run_append run permitted step⟩, fun i o task e hi busy last => ?_⟩
  rcases step?_cases step with
    ⟨o', rfl, rfl⟩ | ⟨j, o', moved, act, s, task', mover, -, hj, moves, rfl⟩
  · by_cases lt : i < p.tasks.length
    · rw [List.getElem?_append_left lt] at hi
      exact ih i o task e hi busy last
    · have fresh : p.trace.acts i = [] := Trace.acts_eq_nil fun entry mem =>
        Nat.lt_of_lt_of_le (known run entry mem) (Nat.le_of_not_lt lt)
      simp [fresh] at last
  · by_cases ij : i = j
    · subst ij
      cases act with
      | none =>
        cases moves
        rw [trace_put, Option.map_none, Option.toList_none, List.append_nil] at last ⊢
        exact ih i o' _ e hj rfl last
      | some e' =>
        rw [trace_put] at last ⊢
        simp only [Option.map_some, Option.toList_some] at last ⊢
        rw [Trace.acts_append_self, List.getLast?_concat] at last
        rw [List.getLast?_concat, Option.some.inj last]
    · -- All others are aside while a task moves.
      have same : p.tasks[i]? = some (o, task) := by
        simpa [put, List.getElem?_set_ne (Ne.symm ij)] using hi
      rw [Rule.isAside_of_reentrant permitted mover ij same] at busy
      cases busy

end Pool
end Tenure.Lifecycle
