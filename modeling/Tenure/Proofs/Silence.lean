import Tenure.Proofs.Acknowledgement
import Tenure.Proofs.Warrant

/-!
# Silence after the signal

Nobody cancels the work that a task has under way when the replica dies, so a work may go on after
the whole teardown. Where operations only begin inside calls, what such a work has seen of the
variables is what they held when it calls. Every chore that matters to others needs such a look,
and a replica that has been torn down is seen to be dead and to hold no grant.
-/
namespace Tenure.Lifecycle

/-- The calls that nobody makes any more once shutdown was signalled. -/
def Call.isSilenced : Call → Bool
  | startDriver _ | stopDriver _ | advertise _ | post _ | stopStorage | shutdown => true
  | _ => false

/-! ## What a task has just seen -/

namespace Pool

variable {before : Trace} {i : Nat} {c : Call} {q : Pool} {o : Operation} {task : Task}

/-- What entitles a task to a call is the last thing that was done at all. -/
theorem Moment.entitled (moment : Moment Rule.reentrant before i (.called c) q o task) :
    ∃ last, c.Entitled last ∧ ∀ e, last = some e → before.getLast? = some (i, e) := by
  obtain ⟨w, walk, -, entitled⟩ := Operation.warranted.allowed moment
  refine ⟨_, entitled, fun e last => ?_⟩
  obtain ⟨schedule, run⟩ := moment.run
  obtain ⟨s, task', moves⟩ := moment.moves
  have busy : task.isAside = false := by
    cases moves
    rfl
  rw [walk.last] at last
  have latest := getLast?_trace_of_busy run moment.held busy (by rwa [moment.trace])
  rwa [moment.trace] at latest

end Pool

/-- What a task does at a moment is allowed at its place. -/
theorem Adequate.exists_allowed {rule : Rule} {before : Trace} {i : Nat} {e : Act} {q : Pool}
    {o : Operation} {task : Task} {l : List Actor} {G : Account} (h : Adequate q l G)
    (moment : Pool.Moment rule before i e q o task) (calm : ∀ c, e ≠ .answered c none) :
    ∃ x, l[i]? = some x ∧ x.place.Allows e := by
  have held := moment.held
  obtain ⟨s, task', moves⟩ := moment.moves
  rw [h.tasks, List.getElem?_map, Option.map_eq_some_iff] at held
  obtain ⟨⟨o', t, r⟩, hi, eq⟩ := held
  cases eq
  have next := (h.fits _ (List.mem_of_getElem? hi)).moves (h.walks i _ hi).settled
    (fun c eq => calm c (Option.some.inj eq)) moves
  exact ⟨_, hi, next.1⟩

/-! ## After the signal -/

section Signalled

variable {q : Pool} {l : List Actor} {G : Account} {permits : Account → Act → Prop}

/-- Who has signalled has torn the replica down. -/
theorem Adequate.complete_of_signalled (h : Adequate q l G) (reached : Account.Reached permits G)
    (signalled : .shutdown ∈ q.trace.calls) :
    ∃ taken found, G.teardown = .complete taken found := by
  have closed : Call.shutdown ∈ G.teardown.closing := by
    rw [← reached.closing, ← h.calls, List.mem_filter]
    exact ⟨signalled, rfl⟩
  cases death : G.teardown with
  | complete taken found => exact ⟨taken, found, rfl⟩
  | none | dying => rw [death] at closed; cases closed
  | tearing stage =>
    rw [death] at closed
    exact (List.count_eq_zero.mp stage.count_closing closed).elim

theorem Adequate.dead_of_signalled (h : Adequate q l G) (reached : Account.Reached permits G)
    (signalled : .shutdown ∈ q.trace.calls) : q.shared.state = .dead := by
  obtain ⟨taken, found, complete⟩ := h.complete_of_signalled reached signalled
  rw [← h.shared]
  exact reached.mortal.dead.mpr (.inr (by simp [complete]))

variable {before : Trace} {i : Nat} {o : Operation} {task : Task}

/-- After the signal the state is seen to be dead. -/
theorem Pool.Moment.seen_dead {s : State}
    (moment : Moment Rule.reentrant before i (.accessed .readState s) q o task)
    (signalled : .shutdown ∈ before.calls) : s = .dead := by
  obtain ⟨schedule, run⟩ := moment.run
  obtain ⟨l, G, adequate, reached⟩ := Pool.accounted_in_turn run
  rw [← moment.state_of_readState]
  exact adequate.dead_of_signalled reached (by rwa [moment.trace])

/-- After the signal the slot is seen to be empty. -/
theorem Pool.Moment.seen_empty {held : Option Grant}
    (moment : Moment Rule.reentrant before i (.accessed .readSlot held) q o task)
    (signalled : .shutdown ∈ before.calls) : held = none := by
  obtain ⟨schedule, run⟩ := moment.run
  obtain ⟨choice, permitted, mover⟩ := moment.permitted
  obtain ⟨l, G, adequate, reached⟩ := Pool.accounted_in_turn run
  obtain ⟨taken, found, complete⟩ :=
    adequate.complete_of_signalled reached (by rwa [moment.trace])
  obtain ⟨x, hi, allowed⟩ := adequate.exists_allowed moment nofun
  have settled := adequate.settled_of_readSlot permitted mover hi allowed
  have slot := reached.slotHolds
  simp only [Account.SlotHolds, Hold.pending?_eq_none settled, Account.base, complete,
    Death.hasTaken, ↓reduceIte] at slot
  rw [← slot, adequate.shared, moment.slot_of_readSlot]

/-- After the signal nobody has seen what entitles to start a driver, to post or to advertise. -/
theorem Pool.Moment.unseen {c : Call}
    (moment : Moment Rule.reentrant before i (.called c) q o task)
    (signalled : .shutdown ∈ before.calls) :
    (∀ driver, c ≠ .startDriver driver) ∧ (∀ event, c ≠ .post event) ∧
      ∀ grant, c ≠ .advertise grant := by
  obtain ⟨schedule, run⟩ := moment.run
  obtain ⟨last, entitled, latest⟩ := moment.entitled
  -- The look is an entry of its own, put down after the signal as well.
  have looked : ∀ a x, last = some (.accessed a x) → ∃ earlier q' o' task',
      Moment Rule.reentrant earlier i (.accessed a x) q' o' task' ∧ .shutdown ∈ earlier.calls := by
    intro a x eq
    obtain ⟨earlier, split⟩ := List.getLast?_eq_some_iff.mp (latest _ eq)
    obtain ⟨q', o', task', seen⟩ := Pool.moment run (moment.trace.trans split)
    refine ⟨earlier, q', o', task', seen, ?_⟩
    rw [split, Trace.calls_append] at signalled
    simpa [Trace.calls, Act.call?] using signalled
  have alive : ¬ ∃ s, s ≠ State.dead ∧ last = some (.accessed .readState s) := by
    rintro ⟨s, live, eq⟩
    obtain ⟨earlier, q', o', task', seen, before⟩ := looked _ _ eq
    exact live (seen.seen_dead before)
  refine ⟨?_, ?_, ?_⟩
  · rintro driver rfl
    exact alive entitled
  · rintro event rfl
    exact alive entitled
  · rintro grant rfl
    obtain ⟨earlier, q', o', task', seen, before⟩ := looked _ _ entitled
    cases seen.seen_empty before

/-- The signal is the last of what only a teardown calls for. -/
theorem Adequate.closing_of_signalled {p : Pool} (h : Adequate p l G)
    (reached : Account.Reached permits G) {before after : Trace} (split : p.trace = before ++ after)
    (signalled : .shutdown ∈ before.calls) : after.calls.filter Call.isClosing = [] := by
  obtain ⟨taken, found, complete⟩ := h.complete_of_signalled reached
    (by rw [split, Trace.calls_append]; exact List.mem_append_left _ signalled)
  have whole : (before.calls ++ after.calls).filter Call.isClosing =
      (found.map Call.stopDriver).toList ++ [Call.stopStorage] ++ [Call.shutdown] := by
    rw [← Trace.calls_append, ← split, h.calls, reached.closing, complete]
    simp [Death.closing]
  rw [List.filter_append] at whole
  rcases (after.calls.filter Call.isClosing).eq_nil_or_concat with none | ⟨rest, last, eq⟩
  · exact none
  · rw [eq, List.concat_eq_append, ← List.append_assoc] at whole
    have early : Call.shutdown ∈ (found.map Call.stopDriver).toList ++ [Call.stopStorage] := by
      rw [← (List.append_inj' whole rfl).1]
      exact List.mem_append_left _ (List.mem_filter.mpr ⟨signalled, rfl⟩)
    cases found <;> simp at early

end Signalled

/-! ## After a run -/

/-- However operations begin inside the calls of others, once shutdown was signalled the replica
starts and stops no driver, advertises nothing, posts nothing, does not stop the storage and does
not signal again, though works may still be under way. It stays dead, and whenever no operation
is under way it is not registered and holds no grant. -/
theorem silent_after_shutdown {schedule : List Choice} {p : Pool}
    (run : Pool.run Rule.reentrant schedule = some p) {before after : Trace}
    (split : p.trace = before ++ after) (signalled : .shutdown ∈ before.calls) :
    after.calls.filter Call.isSilenced = [] ∧ p.shared.state = .dead ∧
      (p.isQuiet = true → p.shared.acknowledged = false ∧ p.shared.slot = none) := by
  obtain ⟨l, G, adequate, reached⟩ := Pool.accounted_in_turn run
  have known : .shutdown ∈ p.trace.calls := by
    rw [split, Trace.calls_append]
    exact List.mem_append_left _ signalled
  have dead := adequate.dead_of_signalled reached known
  refine ⟨?_, dead, fun quiet => ⟨?_, adequate.slot_of_dead reached quiet dead⟩⟩
  · rw [List.filter_eq_nil_iff]
    intro c mem silenced
    have closed := adequate.closing_of_signalled reached split signalled
    rw [List.filter_eq_nil_iff] at closed
    obtain ⟨i, early, late, rfl⟩ := Trace.exists_split_of_mem_calls mem
    rw [← List.append_assoc] at split
    obtain ⟨q, o, task, moment⟩ := Pool.moment run split
    obtain ⟨start, post, advertise⟩ := moment.unseen (by
      rw [Trace.calls_append]
      exact List.mem_append_left _ signalled)
    cases c with
    | startDriver driver => exact start driver rfl
    | post event => exact post event rfl
    | advertise grant => exact advertise grant rfl
    | stopDriver | stopStorage | shutdown => exact closed _ mem rfl
    | _ => cases silenced
  · rw [← adequate.shared] at dead ⊢
    exact (adequate.atRest quiet).unflagged_of_dead reached dead

namespace Choice

/-- A replica dies inside the repair of its storage. The repair ends after the whole teardown and
the work goes on; a timer is late, and so is another grant. -/
def outlived : List Choice :=
  [prepares 0,
    .begin (.lead ⟨"a"⟩) :: upTo 1 5 (.notice (.installed .leaderAwaitingRegistration)) (),
    [.advance 1, .advance 1],
    .begin (.stepDown none) :: upTo 2 5 (.notice (.installed .dead)) (),
    upTo 2 3 (.leave ⟨"a"⟩) (.ok ()), upTo 2 6 .stopStorage (.ok ()), upTo 2 3 .shutdown (),
    .answer 1 .repairStorage (some (.ok ())) :: upTo 1 1 .readFrameworkId (.ok none),
    upTo 1 2 (.createDriver none) ⟨0⟩, upTo 1 2 (.arm .registration) (),
    upTo 1 1 (.arm .failover) (), List.replicate 5 (.advance 1),
    [.begin (.runOut .registration), .advance 3, .advance 3],
    .begin (.lead ⟨"b"⟩) :: upTo 4 5 (.notice .grantRefused) (),
    upTo 4 2 (.leave ⟨"b"⟩) (.ok ()), [.advance 4]].flatten

end Choice

/-- A driver that is made and timers that are armed after the signal come to nothing. -/
theorem silent_after_shutdown_of_outlived :
    ∃ p before after, p ∈ Pool.run Rule.reentrant Choice.outlived ∧ p.trace = before ++ after ∧
      .shutdown ∈ before.calls ∧ .createDriver none ∈ after.calls ∧
        .arm .registration ∈ after.calls ∧ p.isQuiet = true ∧
          after.calls.filter Call.isSilenced = [] ∧ p.shared.state = .dead ∧
            p.shared.acknowledged = false ∧ p.shared.slot = none := by
  have ends : ∃ p, p ∈ Pool.run Rule.reentrant Choice.outlived ∧ p.isQuiet = true ∧
      .shutdown ∈ Trace.calls (p.trace.take 28) ∧
        .createDriver none ∈ Trace.calls (p.trace.drop 28) ∧
          .arm .registration ∈ Trace.calls (p.trace.drop 28) := by
    decide +kernel
  obtain ⟨p, run, quiet, signalled, created, armed⟩ := ends
  have split : p.trace = p.trace.take 28 ++ p.trace.drop 28 := (List.take_append_drop ..).symm
  obtain ⟨silent, dead, rest⟩ := silent_after_shutdown run split signalled
  exact ⟨p, _, _, run, split, signalled, created, armed, quiet, silent, dead, rest quiet⟩

end Tenure.Lifecycle
