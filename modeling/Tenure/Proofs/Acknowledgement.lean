import Tenure.Proofs.Promises

/-!
# The flag of a registration

The flag and the state are two variables without a common lock. The task that confirms the
registration sets the flag and then looks at the state again; a teardown clears the flag after
`dead` was installed. So a flag that is set too late is seen to be, and taken back by the task
that set it. When no operation is under way the flag says what the state says.
-/
namespace Tenure.Lifecycle

/-! ## Variables after an act -/

namespace Act

theorem marks?_of_isConfirming {e : Act} (h : e.isConfirming = false) : e.marks? = none := by
  fun_cases marks? e <;> first | rfl | cases h

end Act

/-! ## What the stages tell of the flag -/

/-- Whether the teardown has cleared the flag. -/
def Death.hasCleared : Death → Bool
  | tearing (.cleared _ _) | complete _ _ => true
  | _ => false

/-- What a task that confirms the registration knows of the flag. A flag that it has set may be
cleared at any moment after that; one that it has set before the replica died stays set until
the teardown clears it. -/
def Confirming.Tells (cleared flag : Bool) : Confirming → Prop
  | unbegun | due | alive | ignored => flag = false
  | marked => cleared = false → flag = true
  | retracting => True
  | acknowledged | posted | holding _ | advertising _ | advertised _ | doomed _ | failed _ =>
    flag = !cleared

/-- A flag that a teardown has cleared is as the task expects it. -/
theorem Confirming.tells_cleared (c : Confirming) : c.Tells true false := by
  cases c <;> first | rfl | trivial | nofun

namespace Account

variable {G G' : Account} {e : Act} {permits : Account → Act → Prop}

def Flagged (G : Account) : Prop := G.confirming.Tells G.teardown.hasCleared G.shared.acknowledged

/-- The second look at the state: while the replica lives, nobody has cleared the flag. -/
theorem Flagged.live (flagged : Flagged G) (mortal : Mortal G) (possible : e.Possible G.shared)
    {c : Confirming} (moves : Confirming.Moves G.confirming e c) :
    c.Tells G.teardown.hasCleared (e.effect G.shared).acknowledged := by
  rw [Act.effect_acknowledged]
  rw [Flagged] at flagged
  generalize G.confirming = c₀ at moves flagged
  cases moves with
  | again s alive =>
    obtain ⟨s', ⟨⟩⟩ := possible
    rw [mortal.teardown_of_live alive] at flagged ⊢
    exact flagged rfl
  | mark => exact fun _ => rfl
  | retract => trivial
  | unmark => rfl
  | stay _ other =>
    rw [Act.marks?_of_isConfirming other]
    exact flagged
  | _ => exact flagged

theorem Flagged.step (flagged : Flagged G) (mortal : Mortal G) (step : G.Step e G') :
    Flagged G' := by
  cases step with
  | live possible _ _ _ _ confirming =>
    exact flagged.live mortal possible (Confirming.moves_of_turn confirming)
  | noticed act => exact flagged
  | @claimed won _ act possible =>
    subst act
    cases won with
    | false => exact flagged
    | true =>
      rw [Flagged, mortal.first possible] at flagged
      exact flagged
  | torn tearing moves possible =>
    rw [Flagged, tearing] at flagged
    rw [Flagged, Act.effect_acknowledged]
    cases moves with
    | clear taken seen => exact G.confirming.tells_cleared
    | take taken => cases taken <;> exact flagged
    | find taken seen => cases seen <;> exact flagged
    | _ => exact flagged

theorem Reached.flagged (h : Reached permits G) : Flagged G := by
  induction h with
  | start => rfl
  | step reached _ step ih => exact ih.step reached.mortal step

/-- At rest, a dead replica is not registered. -/
theorem AtRest.unflagged_of_dead (rest : G.AtRest) (h : Reached permits G)
    (dead : G.shared.state = .dead) : G.shared.acknowledged = false := by
  have flagged := h.flagged
  have finished := rest.confirming
  obtain ⟨taken, found, complete⟩ := rest.complete h dead
  rw [Flagged, complete] at flagged
  cases stage : G.confirming with
  | unbegun | ignored | advertised | failed =>
    rw [stage] at flagged
    exact flagged
  | _ => simp [stage, Confirming.isOver] at finished

/-- At rest, a replica that lives is registered as soon as its state says so. -/
theorem AtRest.flagged_of_live (rest : G.AtRest) (h : Reached permits G)
    (live : G.shared.state ≠ .dead) :
    G.shared.acknowledged = true ↔ State.registeredLeader.rank ≤ G.shared.state.rank := by
  have flagged := h.flagged
  rw [Flagged, h.mortal.teardown_of_live live] at flagged
  constructor
  · intro set
    refine h.confirming_told.rank_le fun unbegun => ?_
    rw [unbegun, set] at flagged
    cases flagged
  · intro begun
    obtain ⟨grant, advertised⟩ := rest.advertised h live begun
    rw [advertised] at flagged
    exact flagged

end Account

/-! ## After a run -/

/-- However the steps of confirmations, timers, requests and the teardown interleave, when no
operation is under way the flag is set exactly if the replica is registered or active. So no
confirmation that straddles a teardown leaves a dead replica registered, and none that
succeeded is forgotten. -/
theorem acknowledged_iff_registered {schedule : List Choice} {p : Pool}
    (run : Pool.run Rule.calm schedule = some p) (quiet : p.isQuiet = true) :
    p.shared.acknowledged = true ↔
      p.shared.state = .registeredLeader ∨ p.shared.state = .active := by
  obtain ⟨l, G, adequate, reached⟩ := Pool.accounted run
  have rest := adequate.atRest quiet
  have unflagged := rest.unflagged_of_dead reached
  have flagged := rest.flagged_of_live reached
  rw [← adequate.shared]
  generalize G.shared.state = s at unflagged flagged
  cases s with
  | dead => simp [unflagged rfl]
  | _ => simpa [State.rank] using flagged (by simp)

namespace Choice

/-- A replica that leads is registered, and dies between the first look at its state and the mark
on the flag. -/
def markedLate : List Choice :=
  prepares 0 ++
    .begin (.lead ⟨"a"⟩) :: upTo 1 5 (.notice (.installed .leaderAwaitingRegistration)) () ++
    upTo 1 2 .repairStorage (.ok ()) ++ startsDriver 1 ++ [.advance 1] ++
    .begin (.registered "f") :: upTo 2 4 (.notice (.installed .registeredLeader)) () ++
    .advance 2 :: .begin (.stepDown none) :: upTo 3 5 (.notice (.installed .dead)) () ++
    upTo 3 3 (.leave ⟨"a"⟩) (.ok ()) ++ upTo 3 4 (.stopDriver ⟨0⟩) .stopped ++
    upTo 3 3 .stopStorage (.ok ()) ++ upTo 3 3 .shutdown () ++ [.advance 2]

end Choice

/-- A flag that is set after the whole teardown is taken back. -/
theorem acknowledged_iff_registered_of_markedLate :
    ∃ q p, q ∈ Pool.run Rule.calm Choice.markedLate ∧ .shutdown ∈ q.trace.calls ∧
      q.shared.acknowledged = true ∧
        p ∈ Pool.run Rule.calm (Choice.markedLate ++ List.replicate 3 (.advance 2)) ∧
          p.isQuiet = true ∧ p.shared.acknowledged = false := by
  have marked : ∃ q, q ∈ Pool.run Rule.calm Choice.markedLate ∧ .shutdown ∈ q.trace.calls ∧
      q.shared.acknowledged = true := by
    decide +kernel
  have ends : ∃ p, p ∈ Pool.run Rule.calm (Choice.markedLate ++ List.replicate 3 (.advance 2)) ∧
      p.isQuiet = true ∧ p.shared.state = .dead := by
    decide +kernel
  obtain ⟨q, late, signalled, set⟩ := marked
  obtain ⟨p, run, quiet, dead⟩ := ends
  have iff := acknowledged_iff_registered run quiet
  rw [dead] at iff
  exact ⟨q, p, late, signalled, set, run, quiet, by simpa using iff⟩

end Tenure.Lifecycle
