import Mathlib.Data.List.Chain
import Mathlib.Data.List.Perm.Subperm
import Tenure.Proofs.Refusal
import Tenure.Proofs.Warrant

/-!
# The course of a replica

The states that are installed are a path of the graph, and below `dead` each step of the path goes
on in the order of the states; so no state but `dead` is installed twice, whoever asks for it and
how often. A request is answered by the state at its moment. Each chore is done by a task that was
granted the state of the chore, and it is done once for a grant; so no chore is ever done twice.
All this holds whatever panics.
-/
namespace Tenure

/-- Whether a state may stand before another one in the course of a replica. -/
def State.Precedes (s t : State) : Prop := t = .dead ∨ s.rank < t.rank

instance : Trans State.Precedes State.Precedes State.Precedes where
  trans {s t u} st tu := by
    rcases tu with rfl | tu
    · exact .inl rfl
    · rcases st with rfl | st
      · exact absurd tu (Nat.not_lt.mpr (State.rank_le_dead u))
      · exact .inr (Nat.lt_trans st tu)

theorem State.precedes_of_between? {s t : State} (edge : (Edge.between? s t).isSome = true) :
    s.Precedes t := by
  rcases Edge.rank_of_between? edge with dead | next
  · exact .inl dead
  · exact .inr (by omega)

theorem State.not_precedes_self {s : State} (live : s ≠ .dead) : ¬ s.Precedes s := by
  rintro (dead | lt)
  · exact live dead
  · exact Nat.lt_irrefl _ lt

theorem State.eq_dead_of_precedes {t : State} (h : State.dead.Precedes t) : t = .dead := by
  rcases h with dead | lt
  · exact dead
  · exact absurd lt (Nat.not_lt.mpr t.rank_le_dead)

theorem State.move_of_between? {s t : State} (edge : (Edge.between? s t).isSome = true) :
    (s.move t).isOk = true := by
  obtain ⟨edge, eq⟩ := Option.isSome_iff_exists.mp edge
  rw [move, eq]
  rfl

theorem State.ok_or_refused_of_move (s t : State) :
    (∃ edge, s.move t = .ok edge) ∨ s.move t = .error ⟨s, t⟩ := by
  cases edge : Edge.between? s t with
  | none => exact .inr (by simp [move, edge])
  | some edge' => exact .inl ⟨edge', by simp [move, edge]⟩

namespace Lifecycle

/-! ## Traces -/

namespace Trace

/-- All states of a replica, from its first. -/
def states (t : Trace) : List State := .idle :: t.installed

/-- The states that were requested, and what came of each request. -/
def requests (t : Trace) : List Request := t.filterMap fun entry => entry.2.request?

/-- The requests of a state that were granted. -/
def granted (target : State) (t : Trace) : List Request :=
  t.requests.filter fun request => request.1 == target && request.2.isOk

theorem getLast?_states (t : Trace) : t.states.getLast? = some t.state := by
  rw [states, List.getLast?_cons, state]

theorem installs?_eq (e : Act) :
    e.installs? = (e.request?.filter fun request => request.2.isOk).map Prod.fst := by
  cases e with
  | accessed a x =>
    cases a with
    | install target => cases x <;> rfl
    | _ => rfl
  | called | answered => rfl

theorem installed_eq (t : Trace) :
    t.installed = (t.requests.filter fun request => request.2.isOk).map Prod.fst := by
  rw [requests, List.filter_filterMap, List.map_filterMap, installed]
  exact List.filterMap_congr fun entry _ => installs?_eq entry.2

/-- A state was installed as often as a request of it was granted. -/
theorem length_granted (target : State) (t : Trace) :
    (t.granted target).length = t.installed.count target := by
  rw [installed_eq, List.count, List.countP_map, List.countP_filter, granted,
    ← List.countP_eq_length_filter]
  rfl

/-- Where nothing is requested, the state stays. -/
theorem state_append_of_unasked {before after : Trace} (unasked : after.requests = []) :
    (before ++ after).state = before.state := by
  have none : after.installed = [] := by simp [installed_eq, unasked]
  rw [state, installed_append, none, List.append_nil]
  rfl

theorem states_append_self (i : Nat) (t : Trace) (e : Act) :
    (t ++ [(i, e)]).states = t.states ++ e.installs?.toList := by
  rw [states, installed_append_self]
  rfl

end Trace

/-! ## The path -/

namespace Pool

variable {rule : Rule} {schedule : List Choice} {p : Pool}

theorem states_isChain (run : Pool.run rule schedule = some p) :
    p.trace.states.IsChain fun s t => (Edge.between? s t).isSome = true := by
  refine (run_induction
    (motive := fun p => (∃ schedule, Pool.run rule schedule = some p) ∧
      p.trace.states.IsChain fun s t => (Edge.between? s t).isSome = true)
    ⟨⟨[], rfl⟩, .singleton _⟩ (fun p q choice ih permitted step => ?_) run).2
  obtain ⟨⟨schedule, run⟩, chain⟩ := ih
  refine ⟨⟨_, run_append run permitted step⟩, ?_⟩
  rcases step?_cases step with ⟨o, rfl, rfl⟩ | ⟨i, o, task, act, s, task', -, -, -, moves, rfl⟩
  · exact chain
  · rw [trace_put]
    cases act with
    | none => simpa using chain
    | some e =>
      show ((p.trace ++ [(i, e)]).states).IsChain _
      rw [Trace.states_append_self]
      refine chain.append (by cases e.installs? <;> simp) fun s last t head => ?_
      rw [Trace.getLast?_states, state_trace run] at last
      obtain rfl : p.shared.state = s := Option.some.inj last
      exact moves.possible.isSome_between? (by simpa using head)

/-- A replica never comes back to a state but to `dead`. -/
theorem states_pairwise (run : Pool.run rule schedule = some p) :
    p.trace.states.Pairwise State.Precedes :=
  List.isChain_iff_pairwise.mp ((states_isChain run).imp fun _ _ => State.precedes_of_between?)

theorem count_states_le_one (run : Pool.run rule schedule = some p) {s : State}
    (live : s ≠ .dead) : p.trace.states.count s ≤ 1 := by
  have alike := (states_pairwise run).filter (· == s)
  rw [List.filter_beq, List.pairwise_replicate] at alike
  exact alike.resolve_right (State.not_precedes_self live)

theorem count_installed_le_one (run : Pool.run rule schedule = some p) {s : State}
    (live : s ≠ .dead) : p.trace.installed.count s ≤ 1 :=
  Nat.le_trans (List.count_le_count_cons) (count_states_le_one run live)

/-! ## Requests -/

theorem Moment.move {before : Trace} {i : Nat} {target : State} {x : Except IllegalMove Edge}
    {q : Pool} {o : Operation} {task : Task}
    (moment : Moment rule before i (.accessed (.install target) x) q o task) :
    x = before.state.move target := by
  obtain ⟨s', apply⟩ := moment.apply
  simp only [Access.apply, Shared.install, Option.some.injEq] at apply
  rw [← moment.state]
  split at apply <;> simp_all

/-- Of all requests of a state but `dead`, at most one is granted. -/
theorem length_granted_le_one (run : Pool.run rule schedule = some p) {target : State}
    (live : target ≠ .dead) : (p.trace.granted target).length ≤ 1 :=
  Trace.length_granted target p.trace ▸ count_installed_le_one run live

/-- Of the callers that race for a state to which an edge leads, the first is granted it. -/
theorem length_granted_of_race (run : Pool.run rule schedule = some p) {before after : Trace}
    (split : p.trace = before ++ after) {target : State} (live : target ≠ .dead)
    (edge : (Edge.between? before.state target).isSome = true)
    (race : after.requests.head?.map Prod.fst = some target) :
    (after.granted target).length = 1 := by
  refine Nat.le_antisymm ?_ ?_
  · calc (after.granted target).length
        ≤ (p.trace.granted target).length := by
          rw [Trace.length_granted, Trace.length_granted, split, Trace.installed_append,
            List.count_append]
          exact Nat.le_add_left ..
      _ ≤ 1 := length_granted_le_one run live
  · obtain ⟨⟨_, x⟩, head, rfl⟩ := Option.map_eq_some_iff.mp race
    obtain ⟨rest, requests⟩ := List.head?_eq_some_iff.mp head
    obtain ⟨earlier, ⟨i, e⟩, later, rfl, unasked, asked, -⟩ :=
      List.filterMap_eq_cons_iff.mp requests
    -- The state is still the one that the race began at.
    have still : (before ++ earlier).state = before.state :=
      Trace.state_append_of_unasked (List.filterMap_eq_nil_iff.mpr unasked)
    have granted : x.isOk = true := by
      rw [← List.append_assoc] at split
      obtain ⟨q, o, task, moment⟩ := Pool.moment run split
      cases e with
      | accessed a y =>
        cases a with
        | install target =>
          cases asked
          rw [moment.move, still]
          exact State.move_of_between? edge
        | _ => cases asked
      | called | answered => cases asked
    rw [Trace.granted, requests, List.filter_cons_of_pos (by simp [granted])]
    exact Nat.le_add_left ..

end Pool

/-! ## Chores -/

namespace Trace

/-- The tasks that did something, as often as they did. -/
def authors (P : Act → Bool) (t : Trace) : List Nat :=
  (t.filter fun entry => P entry.2).map Prod.fst

theorem length_authors (P : Act → Bool) (t : Trace) :
    (t.authors P).length = t.countP fun entry => P entry.2 := by
  rw [authors, List.length_map, List.countP_eq_length_filter]

theorem count_authors (P : Act → Bool) (i : Nat) (t : Trace) :
    (t.authors P).count i = (t.acts i).countP P := by
  rw [authors, List.count, List.countP_map, List.countP_filter, acts, List.countP_filterMap]
  refine List.countP_congr fun entry _ => ?_
  by_cases own : entry.1 = i <;> simp [own]

/-- What each task does at most as often as something else is done so by all of them. -/
theorem countP_le_of_acts {P Q : Act → Bool} {t : Trace}
    (each : ∀ i, (t.acts i).countP P ≤ (t.acts i).countP Q) :
    (t.countP fun entry => P entry.2) ≤ t.countP fun entry => Q entry.2 := by
  rw [← length_authors, ← length_authors]
  refine (List.subperm_ext_iff.mpr fun i _ => ?_).length_le
  rw [count_authors, count_authors]
  exact each i

end Trace

namespace Pool

variable {rule : Rule} {schedule : List Choice} {p : Pool}

theorem count_chore_le_one (run : Pool.run rule schedule = some p) (chore : Chore) :
    (p.trace.calls.countP fun c => c.chore? == some chore) ≤ 1 := by
  have each (i : Nat) :
      (p.trace.acts i).countP (·.does chore) ≤ (p.trace.acts i).countP (·.brings chore.state) := by
    by_cases lt : i < p.tasks.length
    · obtain ⟨w, walk, -⟩ := Operation.warranted.run run i _ (List.getElem?_eq_getElem lt)
      exact Nat.le_trans (Nat.le_add_right ..) (walk.count_does chore)
    · rw [Trace.acts_eq_nil fun entry mem =>
        Nat.lt_of_lt_of_le (known run entry mem) (Nat.le_of_not_lt lt)]
      exact Nat.le_refl 0
  have granted := count_installed_le_one run
    (show chore.state ≠ .dead by cases chore <;> simp [Chore.state])
  calc (p.trace.calls.countP fun c => c.chore? == some chore)
      = p.trace.countP fun entry => entry.2.does chore := by
        rw [Trace.calls, List.countP_filterMap]
        refine List.countP_congr fun entry _ => ?_
        rw [Act.does]
        cases entry.2.call? <;> simp
    _ ≤ p.trace.countP fun entry => entry.2.brings chore.state := Trace.countP_le_of_acts each
    _ = p.trace.installed.count chore.state := by
        rw [Trace.installed, List.count, List.countP_filterMap]
        refine List.countP_congr fun entry _ => ?_
        rw [Act.brings]
        cases entry.2.installs? <;> simp
    _ ≤ 1 := granted

end Pool

/-! ## The whole course -/

/-- What becomes of the requests of a replica, and of the chores that they call for. -/
structure Course (p : Pool) : Prop where
  /-- The state is the one that was installed last. -/
  state : p.trace.state = p.shared.state
  /-- The states are a path of the graph, from `idle`. -/
  path : p.trace.states.IsChain fun s t => (Edge.between? s t).isSome = true
  once : ∀ s, s ≠ .dead → p.trace.states.count s ≤ 1
  dead_last : p.trace.states.Pairwise fun s t => s = .dead → t = .dead
  /-- A request is granted and its target installed, or refused with the state at its moment, and
  nothing is installed. -/
  answered : ∀ (before after : Trace) i target x,
    p.trace = before ++ (i, .accessed (.install target) x) :: after →
      x = before.state.move target ∧
        ((∃ edge, x = .ok edge ∧
            Trace.states (before ++ [(i, .accessed (.install target) x)]) =
              before.states ++ [target]) ∨
          x = .error ⟨before.state, target⟩ ∧
            Trace.states (before ++ [(i, .accessed (.install target) x)]) = before.states)
  /-- Whoever asks for a state is granted it, or is told the refusal and requests nothing else. -/
  told : ∀ i operation outcome target, p.Ended i operation outcome →
    operation.asks? = some target →
      (∃ edge rest,
          (p.trace.acts i).filterMap Act.request? = (target, .ok edge) :: rest) ∨
        ∃ refusal, (p.trace.acts i).filterMap Act.request? = [(target, .error refusal)] ∧
          outcome = .error (.illegalMove refusal)
  granted : ∀ target, target ≠ .dead → (p.trace.granted target).length ≤ 1
  /-- If requests of a state to which an edge leads are the first, exactly one of all is granted. -/
  race : ∀ (before after : Trace) target, p.trace = before ++ after → target ≠ .dead →
    (Edge.between? before.state target).isSome = true →
      after.requests.head?.map Prod.fst = some target → (after.granted target).length = 1
  chores : ∀ chore, (p.trace.calls.countP fun c => c.chore? == some chore) ≤ 1

/-- Whatever is asked of a replica, by however many callers and in whichever order, and whatever
panics: no state but `dead` is ever installed twice, and no chore is ever done twice. -/
theorem runs_its_course {rule : Rule} {schedule : List Choice} {p : Pool}
    (run : Pool.run rule schedule = some p) : Course p where
  state := Pool.state_trace run
  path := Pool.states_isChain run
  once s live := Pool.count_states_le_one run live
  dead_last := (Pool.states_pairwise run).imp fun precedes dead =>
    State.eq_dead_of_precedes (dead ▸ precedes)
  answered before after i target x split := by
    obtain ⟨q, o, task, moment⟩ := Pool.moment run split
    refine ⟨moment.move, ?_⟩
    rw [Trace.states_append_self, moment.move]
    rcases State.ok_or_refused_of_move before.state target with ⟨edge, ok⟩ | refused
    · exact .inl ⟨edge, ok, by rw [ok]; rfl⟩
    · exact .inr ⟨refused, by rw [refused]; exact List.append_nil _⟩
  told i operation outcome target ended asks := by
    obtain ⟨r, walk, told⟩ := Operation.heard.ended run ended
    rw [← Request.eq_of_walk walk]
    rcases told target asks with granted | ⟨refusal, only, told⟩
    · exact .inl granted
    · exact .inr ⟨refusal, only, told outcome rfl⟩
  granted target live := Pool.length_granted_le_one run live
  race before after target split live edge race :=
    Pool.length_granted_of_race run split live edge race
  chores chore := Pool.count_chore_le_one run chore

namespace Choice

/-- Three callers prepare the storage at once; the second comes first, and the storage panics. -/
def contended : List Choice :=
  [[.begin .prepare, .begin .prepare, .begin .prepare, .advance 1, .advance 0, .advance 2],
    upTo 1 2 (.notice (.installed .preparingStorage)) (),
    [.advance 1, .answer 1 .prepareStorage none]].flatten

end Choice

theorem runs_its_course_of_contended :
    ∃ p, p ∈ Pool.run Rule.panicking Choice.contended ∧ p.isQuiet = true ∧ Course p ∧
      p.trace.states = [.idle, .preparingStorage] ∧ p.trace.requests.length = 3 ∧
        p.Ended 0 .prepare (.error (.illegalMove ⟨.preparingStorage, .preparingStorage⟩)) := by
  have ends : ∃ p, p ∈ Pool.run Rule.panicking Choice.contended ∧ p.isQuiet = true ∧
      p.trace.states = [.idle, .preparingStorage] ∧ p.trace.requests.length = 3 ∧
        p.Ended 0 .prepare (.error (.illegalMove ⟨.preparingStorage, .preparingStorage⟩)) := by
    decide +kernel
  obtain ⟨p, run, quiet, rest⟩ := ends
  exact ⟨p, run, quiet, runs_its_course run, rest⟩

end Lifecycle
end Tenure
