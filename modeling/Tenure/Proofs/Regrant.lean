import Tenure.Proofs.Readiness

/-!
# A leader is offered a grant

A replica that leads refuses every further grant, and the refusal changes none of its variables: the
slot holds what it held. Who offers is told, and the grant that was refused is left. The replica
does not ask whether that is the grant it leads by. Delivered once more, its own grant is refused
and left like any other, and stays in the slot.
-/
namespace Tenure.Lifecycle

variable {σ : Type} {rule : Rule} {schedule : List Choice} {p q : Pool}

/-- A leader does not begin to lead again. -/
theorem State.move_of_leads {s : State}
    (leads : s ∈ [.leaderAwaitingRegistration, .registeredLeader, .active]) :
    s.move .leaderAwaitingRegistration = .error ⟨s, .leaderAwaitingRegistration⟩ := by
  cases s <;> first | rfl | simp at leads

namespace Pool

/-- What a rule permits, a laxer one permits. -/
theorem follow?_mono {rule' : Rule}
    (laxer : ∀ p choice, rule p choice = true → rule' p choice = true)
    (follows : p.follow? rule schedule = some q) : p.follow? rule' schedule = some q := by
  induction schedule generalizing p with
  | nil => exact follows
  | cons choice rest ih =>
    simp only [follow?] at follows
    split at follows
    · next permitted =>
      obtain ⟨p', step, follows⟩ := Option.bind_eq_some_iff.mp follows
      rw [follow?_cons (laxer p choice permitted) step]
      exact ih follows
    · cases follows

/-- Nobody panics in some of the runs in which some may. -/
theorem run_of_calm (run : Pool.run Rule.calm schedule = some p) :
    Pool.run Rule.panicking schedule = some p := by
  refine follow?_mono (fun p choice calm => ?_) run
  cases choice with
  | answer i c x =>
    have answered : x.isSome = true := calm
    simp [Rule.panicking, answered]
  | begin | advance => rfl

/-- The grant in the slot was left each time that it was given, but for one. -/
theorem count_leaves_of_held (run : Pool.run Rule.calm schedule = some p)
    (quiet : p.isQuiet = true) {own : Grant} (held : p.shared.slot = some own) :
    p.trace.calls.count (.leave own) + 1 = p.grants.count own := by
  obtain ⟨l, G, adequate, reached⟩ := Pool.accounted run
  have law := adequate.count_leaves_add reached quiet own
  rwa [held, Grant.count, if_pos rfl] at law

end Pool

/-- A leader that is offered a grant refuses it, whichever it is, and tells so. Its variables are as
they were, the slot among them, and all that it asks for is that the refused grant be left. So when
nobody has panicked the grant in the slot was left as often as it was given again, and never if it
was given once. -/
theorem refuses_regrant (run : Pool.run Rule.panicking schedule = some p)
    (quiet : p.isQuiet = true)
    (leads : p.shared.state ∈ [.leaderAwaitingRegistration, .registeredLeader, .active])
    {own : Grant} (held : p.shared.slot = some own) {serve : Crew σ} (sound : serve.Sound)
    (grant : Grant) (crew : σ) :
    ∃ w, Alone.run serve (lead grant) ⟨p.shared, crew, []⟩ =
        some (some (.error (.illegalMove ⟨p.shared.state, .leaderAwaitingRegistration⟩)), w) ∧
      w.shared = p.shared ∧ w.calls = [.notice .grantRefused, .leave grant] ∧
      (Pool.run Rule.calm schedule = some p →
        (p.trace.calls ++ w.calls).count (.leave own) + 1 =
          p.grants.count own + if grant = own then 1 else 0) := by
  obtain ⟨l, d, endures⟩ := Pool.endures run
  have free : p.shared.grantsHeld = false := (endures.atRest quiet).1 .grants
  obtain ⟨x, w, alone, shared, crew', acts, told⟩ :=
    Alone.comesTo_lead_of_refused grant crew [] (fun c s => .inl (sound c s)) free
      (State.move_of_leads leads)
  obtain ⟨left, answered⟩ := Option.isSome_iff_exists.mp (sound (.leave grant) crew')
  rw [answered] at acts told
  subst told
  have calls : w.calls = [.notice .grantRefused, .leave grant] := by
    rw [Alone.calls, acts]
    rfl
  refine ⟨w, alone, shared, calls, fun calm => ?_⟩
  have law := Pool.count_leaves_of_held calm quiet held
  rw [calls, List.count_append, ← law]
  by_cases same : grant = own
  · subst same
    simp
  · simp [same]

/-- A replica that is registered is offered another grant, and its own is not left for it. -/
theorem refuses_regrant_of_confirmedEarly :
    ∃ p w, Pool.run Rule.calm Choice.confirmedEarly = some p ∧ p.isQuiet = true ∧
      p.shared.state = .registeredLeader ∧ p.shared.slot = some ⟨"a"⟩ ∧
      Alone.run Clocked.willing (lead ⟨"b"⟩) ⟨p.shared, (), []⟩ =
        some (some (.error (.illegalMove ⟨.registeredLeader, .leaderAwaitingRegistration⟩)), w) ∧
      w.shared = p.shared ∧ (p.trace.calls ++ w.calls).count (.leave ⟨"a"⟩) = 0 := by
  have ends : ∃ p, p ∈ Pool.run Rule.calm Choice.confirmedEarly ∧ p.isQuiet = true ∧
      p.shared.state = .registeredLeader ∧ p.shared.slot = some ⟨"a"⟩ ∧
      p.grants.count ⟨"a"⟩ = 1 := by
    decide +kernel
  obtain ⟨p, run, quiet, state, held, once⟩ := ends
  have sound : Crew.Sound Clocked.willing := fun c _ => by cases c <;> rfl
  obtain ⟨w, alone, shared, -, law⟩ :=
    refuses_regrant (Pool.run_of_calm run) quiet (by simp [state]) held sound ⟨"b"⟩ ()
  rw [state] at alone
  refine ⟨p, w, run, quiet, state, held, alone, shared, ?_⟩
  have law := law run
  rw [once] at law
  simpa using law

/-- The grant of a leader is delivered once more. It stays in the slot, and is left. -/
theorem left_if_redelivered :
    ∃ p, p ∈ Pool.run Rule.calm Choice.confirmedEarly ∧ p.isQuiet = true ∧
      p.shared.state = .registeredLeader ∧ p.shared.slot = some ⟨"a"⟩ ∧
      .leave ⟨"a"⟩ ∉ p.trace.calls ∧
      (Alone.run Clocked.willing (lead ⟨"a"⟩) ⟨p.shared, (), []⟩).map
          (fun r => (r.1, r.2.shared.slot, r.2.calls)) =
        some (some (.error (.illegalMove ⟨.registeredLeader, .leaderAwaitingRegistration⟩)),
          some ⟨"a"⟩, [.notice .grantRefused, .leave ⟨"a"⟩]) := by
  decide +kernel

end Tenure.Lifecycle
