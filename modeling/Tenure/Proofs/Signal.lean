import Tenure.Proofs.Enactment
import Tenure.Proofs.Partings

/-!
# The signal of a death

Whatever panics, a replica that died has signalled shutdown once when every operation is over, and
a replica that lives has not. A panic leaves no lock behind, so each later operation is carried
out as if there had been none: its request is answered by the graph of states.
-/
namespace Tenure.Lifecycle

variable {σ α β : Type}

/-! ## How an operation is answered -/

/-- An operation that runs alone is answered by the graph of states. What is refused changes
nothing. What is granted is carried out, and told to have gone well unless the storage failed; a
request of `dead` always is granted. There is no answer only if a collaborator panicked. All locks
are given back, and shutdown is signalled if this is the operation that brings death. -/
structure Heeds (serve : Crew σ) (operation : Operation) (w : Alone σ) (x : Option Outcome)
    (w' : Alone σ) : Prop where
  idle : operation.target? serve w = none → w'.shared = w.shared ∧ w'.requests = w.requests ∧
    ∀ outcome, x = some outcome → outcome = .ok ()
  refused : ∀ target e, operation.target? serve w = some target →
    w.shared.state.move target = .error e →
      w'.shared = w.shared ∧ w'.requests = w.requests ++ [(target, .error e)] ∧
        ∀ outcome, x = some outcome → outcome = .error (.illegalMove e)
  granted : ∀ target edge, operation.target? serve w = some target →
    w.shared.state.move target = .ok edge →
      Executes serve operation target edge w x w'
  dies : operation.target? serve w = some .dead →
    w'.shared.state = .dead ∧ (x = some (.ok ()) ∨ x = none)
  fled : x = none → ∃ c crew, .answered c none ∈ w'.acts ∧ (serve c crew).1 = none
  free : ∀ k, w'.shared.isHeld k = false
  signal : w'.calls.count .shutdown = w.calls.count .shutdown +
    if w'.shared.state = .dead ∧ w.shared.state ≠ .dead then 1 else 0

/-! ## After a run -/

namespace Trace

/-- Whether `dead` was ever installed. -/
def hasDied (t : Trace) : Bool := t.any fun entry => entry.2.installs? == some .dead

theorem hasDied_iff {t : Trace} :
    t.hasDied = true ↔ ∃ entry ∈ t, entry.2.installs? = some .dead := by
  simp [hasDied]

end Trace

namespace Teardown

/-- A teardown that was cut short has made some of its calls, in order. -/
theorem calls_sublist (stage : Teardown) :
    (stage.calls ++ [Call.shutdown]).Sublist (farewell stage.taken?.join stage.found?.join) := by
  cases stage <;> simp [calls, farewell, taken?, found?]

theorem closing_eq (stage : Teardown) : stage.closing = stage.calls.filter Call.isClosing := by
  have grants (taken : Option Grant) :
      (taken.map Call.leave).toList.filter Call.isClosing = [] := by
    cases taken <;> rfl
  have drivers (found : Option DriverId) :
      (found.map Call.stopDriver).toList.filter Call.isClosing =
        (found.map .stopDriver).toList := by
    cases found <;> rfl
  cases stage with
  | halted | cleared =>
    simp [calls, closing, grants, drivers]
    rfl
  | _ => simp [calls, closing, grants, drivers]

end Teardown

/-- A signal goes out with the first death, and with no other. -/
theorem Endures.count_shutdown {p : Pool} {l : List Standing} {d : Parting} (h : Endures p l d)
    (quiet : p.isQuiet = true) :
    p.trace.calls.count .shutdown = if p.shared.state = .dead then 1 else 0 := by
  obtain ⟨-, ended, dead⟩ := h.atRest quiet
  rw [← List.count_filter (p := Call.isClosing) (by rfl), h.closing]
  cases d with
  | dying | tearing | fleeing => cases ended
  | none => simp [dead, Parting.closing]
  | parted stage => simp [dead, Parting.closing, stage.count_closing]

/-- What an operation does alone on a replica at rest is a run that goes on. -/
theorem Pool.run_alone {schedule : List Choice} {p : Pool} {serve : Crew σ} {operation : Operation}
    {crew : σ} {x : Option Outcome} {w : Alone σ} (careful : serve.Careful)
    (run : Pool.run Rule.panicking schedule = some p) (quiet : p.isQuiet = true)
    (alone : Alone.run serve operation.program ⟨p.shared, crew, []⟩ = some (x, w)) :
    ∃ more q, Pool.run Rule.panicking (schedule ++ more) = some q ∧ q.isQuiet = true ∧
      q.shared = w.shared ∧ q.trace.calls = p.trace.calls ++ w.calls := by
  let begun : Pool := { p with tasks := p.tasks ++ [(operation, .running operation.program)] }
  have last : begun.tasks[p.tasks.length]? = some (operation, .running operation.program) := by
    simp [begun]
  obtain ⟨rest, acts, eq, follow⟩ := Pool.follow?_of_run (p := begun) careful.permits alone rfl last
  refine ⟨.begin operation :: rest, begun.finish p.tasks.length operation x w.shared acts, ?_, ?_,
    rfl, ?_⟩
  · rw [Pool.run, Pool.follow?_append run, Pool.follow?_cons rfl rfl]
    exact follow
  · simpa [Pool.isQuiet, Pool.finish, begun, Task.isOver_ended] using quiet
  · show (p.trace ++ acts.map fun act => (p.tasks.length, act)).calls = _
    rw [Trace.calls, List.filterMap_append, List.filterMap_map, Alone.calls, eq]
    rfl

/-- A replica at rest heeds what is asked of it next, whoever has panicked before. -/
theorem Pool.heeds {schedule : List Choice} {p : Pool} {serve : Crew σ}
    (run : Pool.run Rule.panicking schedule = some p) (quiet : p.isQuiet = true)
    (careful : serve.Careful) (operation : Operation) (crew : σ) :
    ∃ x w, Alone.run serve operation.program ⟨p.shared, crew, []⟩ = some (x, w) ∧
      Heeds serve operation ⟨p.shared, crew, []⟩ x w := by
  obtain ⟨l, d, endures⟩ := Pool.endures run
  have free := (endures.atRest quiet).1
  obtain ⟨x, w, r, alone, rest, locks⟩ := Alone.run_survives (w := ⟨p.shared, crew, []⟩) careful
    operation.survives fun k => by rw [free k]; cases k <;> rfl
  have freed (k : Lock) : w.shared.isHeld k = false := by
    rw [locks k]
    cases k with
    | grants => exact rest.grants
    | driver => exact rest.driver
  have rank := (Alone.run_grows alone).2
  refine ⟨x, w, alone, ?_⟩
  exact
    { idle := fun none => Operation.idle (free .grants) none alone
      refused := fun target e some refused =>
        Operation.refused careful (free .grants) some refused alone
      granted := fun target edge some granted =>
        Operation.executes careful (free .grants) some granted alone (freed .grants)
      dies := fun some => Operation.dies careful (free .grants) some alone (freed .grants)
      fled := fun none => Alone.exists_panicked operation.follows.completes (none ▸ alone)
      free := freed
      signal := by
        obtain ⟨more, q, run', quiet', shared, calls⟩ := Pool.run_alone careful run quiet alone
        obtain ⟨l', d', endures'⟩ := Pool.endures run'
        have before := endures.count_shutdown quiet
        have after := endures'.count_shutdown quiet'
        rw [calls, List.count_append, before, shared] at after
        by_cases dying : p.shared.state = .dead
        · rw [dying] at rank
          have still := State.eq_dead_of_rank_le rank
          simp [dying, still] at after ⊢
          simpa [Alone.calls] using after
        · simpa [dying, Alone.calls] using after }

/-- However often collaborators panic, when every operation is over shutdown has been signalled
once if the replica ever died and never if it did not. One task at most has torn the replica down,
and has made no call twice. No lock is held, and each operation that follows is carried out: it
does what the graph of states says. -/
theorem signal_survives_panics {schedule : List Choice} {p : Pool}
    (run : Pool.run Rule.panicking schedule = some p) (quiet : p.isQuiet = true) :
    p.trace.calls.count .shutdown = (if p.trace.hasDied then 1 else 0) ∧
    (p.trace.hasDied = false → p.trace.calls.filter Call.isClosing = []) ∧
    (p.trace.hasDied = true → ∃ t before during after taken found,
      p.trace.acts t =
        before ++ .accessed .claimTeardown true :: during ++ .called .shutdown :: after ∧
      (during.filterMap Act.call? ++ [Call.shutdown]).Sublist (farewell taken found) ∧
      p.trace.calls.filter Call.isClosing =
        (during.filterMap Act.call?).filter Call.isClosing ++ [.shutdown] ∧
      p.trace.taken.Sublist [taken] ∧ p.trace.found.Sublist [found]) ∧
    (∀ k, p.shared.isHeld k = false) ∧
    ∀ {σ : Type} (serve : Crew σ), serve.Careful → ∀ (operation : Operation) (crew : σ),
      ∃ x w, Alone.run serve operation.program ⟨p.shared, crew, []⟩ = some (x, w) ∧
        Heeds serve operation ⟨p.shared, crew, []⟩ x w := by
  obtain ⟨l, d, endures⟩ := Pool.endures run
  obtain ⟨free, ended, dead⟩ := endures.atRest quiet
  have died : p.trace.hasDied = true ↔ d ≠ .none := by
    rw [Trace.hasDied_iff, ← endures.died, dead]
  refine ⟨?_, fun lives => ?_, fun dies => ?_, free, ?_⟩
  · rw [endures.count_shutdown quiet]
    simp [dead.trans died.symm]
  · have untouched : d = .none := by
      refine Classical.byContradiction fun begun => ?_
      rw [died.mpr begun] at lives
      cases lives
    rw [endures.closing, untouched]
    rfl
  · have begun := died.mp dies
    cases d with
    | none => exact (begun rfl).elim
    | dying | tearing | fleeing => cases ended
    | parted stage =>
      obtain ⟨t, y, ht, eq⟩ := endures.teardown.exists_of_ne begun
      have parting : y.stance.parting = .parted stage := by
        cases h : y.stance.parting <;> simp_all [Parting.teardown]
      have told := endures.told t y ht
      rw [parting] at told
      obtain ⟨before, during, after, acts, calls⟩ := told
      refine ⟨t, before, during, after, stage.taken?.join, stage.found?.join, acts, ?_, ?_, ?_, ?_⟩
      · rw [calls]
        exact stage.calls_sublist
      · rw [calls, endures.closing, ← stage.closing_eq]
        rfl
      · rw [endures.taken]
        cases h : stage.taken? <;> simp [Parting.taken?, h]
      · rw [endures.found]
        cases h : stage.found? <;> simp [Parting.found?, h]
  · exact fun serve careful operation crew => Pool.heeds run quiet careful operation crew

namespace Choice

/-- Lets a task take some steps to a call, which panics. -/
def panics (i n : Nat) (c : Call) : List Choice :=
  List.replicate n (.advance i) ++ [.answer i c none]

/-- The driver panics when it is started, and the election when it is left. -/
def shaken : List Choice :=
  prepares 0 ++
    .begin (.lead ⟨"a"⟩) :: upTo 1 5 (.notice (.installed .leaderAwaitingRegistration)) () ++
    upTo 1 2 .repairStorage (.ok ()) ++ upTo 1 1 .readFrameworkId (.ok none) ++
    upTo 1 2 (.createDriver none) ⟨0⟩ ++ upTo 1 2 (.arm .registration) () ++
    upTo 1 1 (.arm .failover) () ++ panics 1 3 (.startDriver ⟨0⟩) ++ [.advance 1, .advance 1] ++
    .begin (.stepDown none) :: upTo 2 5 (.notice (.installed .dead)) () ++
    panics 2 3 (.leave ⟨"a"⟩) ++ upTo 2 1 .shutdown ()

end Choice

/-- Collaborators that panic wherever they may. -/
def Crew.fragile : Crew Unit := fun c s =>
  match c with
  | .shutdown | .notice _ => (some (), s)
  | _ => (none, s)

theorem Crew.careful_fragile : Crew.fragile.Careful := by
  intro c s
  cases c <;> first | exact .inl rfl | exact .inr rfl

/-- A replica whose driver panicked, and whose teardown was cut short, has signalled. It still
refuses a grant as it should, whatever else panics. -/
theorem signal_survives_panics_of_shaken :
    ∃ p, p ∈ Pool.run Rule.panicking Choice.shaken ∧ p.isQuiet = true ∧
      p.trace.hasDied = true ∧ p.trace.calls.count .shutdown = 1 ∧
      (∀ k, p.shared.isHeld k = false) ∧
      ∃ x w, Alone.run .fragile (Operation.lead ⟨"b"⟩).program ⟨p.shared, (), []⟩ = some (x, w) ∧
        Heeds .fragile (.lead ⟨"b"⟩) ⟨p.shared, (), []⟩ x w := by
  have ends : ∃ p, p ∈ Pool.run Rule.panicking Choice.shaken ∧ p.isQuiet = true ∧
      p.trace.hasDied = true := by
    decide +kernel
  obtain ⟨p, run, quiet, died⟩ := ends
  obtain ⟨signalled, -, -, free, later⟩ := signal_survives_panics run quiet
  exact ⟨p, run, quiet, died, by rw [signalled, died]; rfl, free,
    later .fragile Crew.careful_fragile (.lead ⟨"b"⟩) ()⟩

end Tenure.Lifecycle
