import Tenure.Proofs.Works

/-!
# What the state tells about the works

A replica passes through its states in one order, and each work begins with a state that is
installed once. So while a replica lives its state tells which works have begun, and no work
begins twice. A dead replica has begun its teardown, or has a task that is about to.
-/
namespace Tenure

/-- The place of a state in the order in which a replica passes through them. -/
def State.rank : State → Nat
  | idle => 0
  | preparingStorage => 1
  | storagePrepared => 2
  | leaderAwaitingRegistration => 3
  | registeredLeader => 4
  | active => 5
  | dead => 6

theorem State.rank_le_dead (s : State) : s.rank ≤ State.dead.rank := by cases s <;> decide

theorem State.eq_of_rank_eq {s t : State} (h : s.rank = t.rank) : s = t := by
  cases s <;> cases t <;> first | rfl | cases h

theorem State.eq_dead_of_rank_le {s : State} (h : State.dead.rank ≤ s.rank) : s = .dead :=
  State.eq_of_rank_eq (Nat.le_antisymm s.rank_le_dead h)

theorem Edge.rank_of_between? {source target : State}
    (h : (Edge.between? source target).isSome = true) :
    target = .dead ∨ target.rank = source.rank + 1 := by
  cases source <;> cases target <;> simp_all [State.rank] <;> cases h

theorem Edge.live_of_between? {source target : State}
    (h : (Edge.between? source target).isSome = true) (live : target ≠ .dead) :
    source ≠ .dead := by
  rintro rfl
  cases target <;> simp_all <;> cases h

namespace Lifecycle

/-! ## Variables after an act -/

@[simp] theorem Shared.state_setHeld (s : Shared) (held : Bool) (l : Lock) :
    (s.setHeld held l).state = s.state := by cases l <;> rfl

namespace Act

theorem installs?_eq_some_iff {e : Act} {target : State} :
    e.installs? = some target ↔ ∃ edge, e = .accessed (.install target) (.ok edge) := by
  constructor
  · intro h
    unfold installs? at h
    split at h
    · next edge =>
      cases h
      exact ⟨edge, rfl⟩
    · cases h
  · rintro ⟨edge, rfl⟩
    rfl

theorem Possible.edge {s : Shared} {target : State} {edge : Edge}
    (h : Possible s (.accessed (.install target) (.ok edge))) :
    Edge.between? s.state target = some edge := by
  obtain ⟨s', h⟩ := h
  simp only [Access.apply, Shared.install, State.move, Option.some.injEq] at h
  cases hb : Edge.between? s.state target <;> simp_all

theorem Possible.isSome_between? {s : Shared} {e : Act} {target : State} (h : e.Possible s)
    (installed : e.installs? = some target) : (Edge.between? s.state target).isSome = true := by
  obtain ⟨edge, rfl⟩ := installs?_eq_some_iff.mp installed
  rw [Possible.edge h]
  rfl

/-- A replica goes on in the order of its states. -/
theorem Possible.rank_le {s : Shared} {e : Act} (h : e.Possible s) :
    s.state.rank ≤ (e.effect s).state.rank := by
  rw [effect_state]
  cases installed : e.installs? with
  | none => exact Nat.le_refl _
  | some t =>
    rcases Edge.rank_of_between? (h.isSome_between? installed) with rfl | next
    · exact State.rank_le_dead _
    · simp only [Option.getD_some]
      omega

/-- A dead replica stays dead. -/
theorem Possible.dead {s : Shared} {e : Act} (h : e.Possible s) (dead : s.state = .dead) :
    (e.effect s).state = .dead := by
  have le := h.rank_le
  rw [dead] at le
  exact State.eq_dead_of_rank_le le

theorem Possible.state_eq_dead_iff {s : Shared} {e : Act} (h : e.Possible s) :
    (e.effect s).state = .dead ↔ s.state = .dead ∨ e.installs? = some .dead := by
  constructor
  · intro dead
    rw [effect_state] at dead
    cases installed : e.installs? with
    | none => exact .inl (by simpa [installed] using dead)
    | some t => exact .inr (by simpa [installed] using dead)
  · rintro (dead | dies)
    · exact h.dead dead
    · rw [effect_state, dies]
      rfl

end Act

/-! ## Beginnings -/

/-- What installs the first state of a work is part of the work. -/
theorem Act.installs?_ne {work : Act → Bool} {e : Act} {first : State} (other : work e = false)
    (own : ∀ edge, work (.accessed (.install first) (.ok edge)) = true) :
    e.installs? ≠ some first := by
  intro installed
  obtain ⟨edge, rfl⟩ := installs?_eq_some_iff.mp installed
  rw [own] at other
  cases other

theorem Preparing.after_eq_unbegun_iff (p : Preparing) (e : Act) (h : p.Allows e) :
    p.after e = unbegun ↔ p = unbegun ∧ e.installs? ≠ some .preparingStorage := by
  have moves := moves_of_allows h
  generalize p.after e = p' at moves
  cases moves with
  | begin => exact ⟨nofun, fun h => (h.2 rfl).elim⟩
  | stay _ other => exact (and_iff_left (Act.installs?_ne other fun _ => rfl)).symm
  | _ => exact ⟨nofun, nofun⟩

theorem Leading.after_eq_unbegun_iff (l : Leading) (e : Act) (h : l.Allows e) :
    l.after e = unbegun ↔ l = unbegun ∧ e.installs? ≠ some .leaderAwaitingRegistration := by
  have moves := moves_of_allows h
  generalize l.after e = l' at moves
  cases moves with
  | begin => exact ⟨nofun, fun h => (h.2 rfl).elim⟩
  | stay _ other => exact (and_iff_left (Act.installs?_ne other fun _ => rfl)).symm
  | _ => exact ⟨nofun, nofun⟩

theorem Confirming.after_eq_unbegun_iff (c : Confirming) (e : Act) (h : c.Allows e) :
    c.after e = unbegun ↔ c = unbegun ∧ e.installs? ≠ some .registeredLeader := by
  have moves := moves_of_allows h
  generalize c.after e = c' at moves
  cases moves with
  | begin => exact ⟨nofun, fun h => (h.2 rfl).elim⟩
  | stay _ other => exact (and_iff_left (Act.installs?_ne other fun _ => rfl)).symm
  | _ => exact ⟨nofun, nofun⟩

theorem Hold.accepted?_after (h : Hold) (e : Act) (allowed : h.Allows e) :
    (h.after e).accepted? = h.accepted? ∨
      e.installs? = some .leaderAwaitingRegistration ∧
        ∃ grant previous, h = offered grant previous ∧ (h.after e).accepted? = some grant := by
  have moves := moves_of_allows allowed
  generalize h.after e = h' at moves
  cases moves with
  | lead grant previous edge => exact .inr ⟨rfl, grant, previous, rfl, rfl⟩
  | _ => exact .inl rfl

theorem Act.holdsGrants_of_isMortal {e : Act} (h : e.isMortal = true) (held : Bool) :
    e.holdsGrants held = held := by
  fun_cases isMortal e <;> simp_all [isMortal, holdsGrants]

namespace Hold

/-- Whether a task has the lock on grants. -/
def isHeld : Hold → Bool
  | none | closed _ _ => false
  | _ => true

@[simp] theorem isHeld_current (h : Hold) : h.current.isHeld = h.isHeld := by cases h <;> rfl

theorem current_eq_none_iff {h : Hold} : h.current = none ↔ h.isHeld = false := by
  cases h <;> simp [current, isHeld]

@[simp] theorem current_current (h : Hold) : h.current.current = h.current := by cases h <;> rfl

theorem current_of_isHeld {h : Hold} (held : h.isHeld = true) : h.current = h := by
  cases h <;> first | rfl | cases held

theorem isHeld_after {h : Hold} {e : Act} (allowed : h.Allows e) :
    (h.after e).isHeld = e.holdsGrants h.isHeld := by
  have moves := moves_of_allows allowed
  generalize h.after e = h' at moves
  cases moves with
  | stay other => fun_cases Act.holdsGrants h.isHeld e <;> simp_all [Act.isHolding]
  | _ => rfl

theorem holdsGrants_of_still {e : Act} (allowed : none.Allows e) (still : none.after e = none)
    (held : Bool) : e.holdsGrants held = held := by
  fun_cases Act.holdsGrants held e <;> simp_all [Allows, after]

end Hold

theorem Hold.accepted?_of_current {h : Hold} {grant : Grant}
    (accepted : h.current.accepted? = some grant) : h.accepted? = some grant := by
  cases h <;> simp_all [current, accepted?]

theorem Teardown.Moves.ne_none {stage : Teardown} {e : Act} {d : Death} (h : stage.Moves e d) :
    d ≠ .none := by
  cases h <;> simp

theorem Act.installs?_eq_none_of_isMortal {e : Act} (h : e.isMortal = true) :
    e.installs? = none := by
  fun_cases isMortal e <;> simp_all [isMortal, installs?]

/-! ## The state tells what has begun -/

/-- What a state says about a work that begins when `first` is installed. -/
structure Told (first : State) (begun : Prop) (s : State) : Prop where
  rank_le : begun → first.rank ≤ s.rank
  begun : first.rank ≤ s.rank → s ≠ .dead → begun

theorem Told.step {σ : Type} {idle stage stage' : σ} {first s : State} {e : Act}
    (told : Told first (stage ≠ idle) s)
    (edge : ∀ t, e.installs? = some t → (Edge.between? s t).isSome = true)
    (still : stage' = idle ↔ stage = idle ∧ ¬ e.installs? = some first) :
    Told first (stage' ≠ idle) (e.installs?.getD s) := by
  have begins : stage' ≠ idle ↔ stage ≠ idle ∨ e.installs? = some first := by
    rw [ne_eq, still, Classical.not_and_iff_not_or_not, Classical.not_not]
  cases installed : e.installs? with
  | none => simpa [begins, installed] using told
  | some t =>
    simp only [begins, installed, Option.some.injEq, Option.getD_some]
    rcases Edge.rank_of_between? (edge t installed) with rfl | next
    · refine ⟨fun _ => State.rank_le_dead first, fun _ alive => (alive rfl).elim⟩
    · constructor
      · rintro (begun | rfl)
        · have := told.rank_le begun
          omega
        · exact Nat.le_refl _
      · intro le _
        rcases Nat.lt_or_eq_of_le le with lt | eq
        · refine .inl (told.begun (by omega) ?_)
          rintro rfl
          have := State.rank_le_dead t
          simp [State.rank] at this next
          omega
        · exact .inr (State.eq_of_rank_eq eq).symm

namespace Account

variable {G G' : Account} {e : Act} {permits : Account → Act → Prop}

theorem Step.edge (h : Step G e G') (t : State) (installed : e.installs? = some t) :
    (Edge.between? G.shared.state t).isSome = true := h.possible.isSome_between? installed

theorem Step.state (h : Step G e G') : G'.shared.state = e.installs?.getD G.shared.state := by
  rw [h.shared, Act.effect_state]

theorem Step.preparing_eq_unbegun_iff (h : Step G e G') :
    G'.preparing = .unbegun ↔
      G.preparing = .unbegun ∧ ¬ e.installs? = some .preparingStorage :=
  Turn.eq_idle_iff Preparing.after_eq_unbegun_iff
    (fun mortal => by simp [Act.installs?_eq_none_of_isMortal mortal]) h.preparing

theorem Step.leading_eq_unbegun_iff (h : Step G e G') :
    G'.leading = .unbegun ↔
      G.leading = .unbegun ∧ ¬ e.installs? = some .leaderAwaitingRegistration :=
  Turn.eq_idle_iff Leading.after_eq_unbegun_iff
    (fun mortal => by simp [Act.installs?_eq_none_of_isMortal mortal]) h.leading

theorem Step.confirming_eq_unbegun_iff (h : Step G e G') :
    G'.confirming = .unbegun ↔
      G.confirming = .unbegun ∧ ¬ e.installs? = some .registeredLeader :=
  Turn.eq_idle_iff Confirming.after_eq_unbegun_iff
    (fun mortal => by simp [Act.installs?_eq_none_of_isMortal mortal]) h.confirming

theorem Reached.preparing_told (h : Reached permits G) :
    Told .preparingStorage (G.preparing ≠ .unbegun) G.shared.state := by
  induction h with
  | start => exact ⟨fun begun => (begun rfl).elim, fun le => by simp [State.rank] at le⟩
  | step _ _ step ih =>
    rw [step.state]
    exact ih.step step.edge step.preparing_eq_unbegun_iff

theorem Reached.leading_told (h : Reached permits G) :
    Told .leaderAwaitingRegistration (G.leading ≠ .unbegun) G.shared.state := by
  induction h with
  | start => exact ⟨fun begun => (begun rfl).elim, fun le => by simp [State.rank] at le⟩
  | step _ _ step ih =>
    rw [step.state]
    exact ih.step step.edge step.leading_eq_unbegun_iff

theorem Reached.confirming_told (h : Reached permits G) :
    Told .registeredLeader (G.confirming ≠ .unbegun) G.shared.state := by
  induction h with
  | start => exact ⟨fun begun => (begun rfl).elim, fun le => by simp [State.rank] at le⟩
  | step _ _ step ih =>
    rw [step.state]
    exact ih.step step.edge step.confirming_eq_unbegun_iff

theorem Step.rank_le (h : Step G e G') : G.shared.state.rank ≤ G'.shared.state.rank := by
  rw [h.shared]
  exact h.possible.rank_le

theorem Reached.accepted_of_hold (h : Reached permits G) {grant : Grant}
    (accepted : G.hold.accepted? = some grant) : G.accepted = some grant := by
  induction h with
  | start => cases accepted
  | step _ _ step ih =>
    rename_i G G' e _ _
    obtain turn | ⟨-, hold, eq⟩ := step.hold
    · generalize G'.hold = h at turn accepted
      generalize G'.accepted = a at turn
      cases turn with
      | own =>
        rw [Hold.accepted?_of_current accepted, Option.some_or]
      | other => exact ih accepted
    · rw [eq]
      exact ih (hold ▸ accepted)

theorem Reached.accepted_or (h : Reached permits G) :
    G.hold.accepted?.or G.accepted = G.accepted := by
  cases held : G.hold.accepted? with
  | none => rfl
  | some grant => rw [h.accepted_of_hold held, Option.some_or]

/-- A grant is accepted by a move to `leaderAwaitingRegistration` only. -/
theorem Reached.rank_of_accepted (h : Reached permits G) (accepted : G.accepted ≠ none) :
    State.leaderAwaitingRegistration.rank ≤ G.shared.state.rank := by
  induction h with
  | start => exact (accepted rfl).elim
  | step reached _ step ih =>
    rename_i G G' e _
    obtain turn | ⟨-, -, eq⟩ := step.hold
    · generalize G'.hold = h at turn
      generalize ha : G'.accepted = a at turn accepted
      cases turn with
      | own allowed =>
        rcases Hold.accepted?_after G.hold e allowed with same | ⟨installed, _⟩
        · refine Nat.le_trans (ih ?_) step.rank_le
          intro none
          rw [same, none] at accepted
          cases held : G.hold.accepted? with
          | none => simp [held] at accepted
          | some grant => simp [reached.accepted_of_hold held] at none
        · rw [step.state, installed]
          exact Nat.le_refl _
      | other => exact Nat.le_trans (ih accepted) step.rank_le
    · exact Nat.le_trans (ih (eq ▸ accepted)) step.rank_le

/-- One grant is accepted at most. -/
theorem Reached.unaccepted (h : Reached permits G)
    (edge : (Edge.between? G.shared.state .leaderAwaitingRegistration).isSome = true) :
    G.accepted = none := Classical.byContradiction fun accepted => by
  have := h.rank_of_accepted accepted
  have := (Edge.rank_of_between? edge).resolve_left (by simp)
  omega

/-! ## The lock on grants -/

theorem Reached.grantsHeld (h : Reached permits G) : G.shared.grantsHeld = G.hold.isHeld := by
  induction h with
  | start => rfl
  | step _ _ step ih =>
    rename_i G G' e _ _
    rw [step.shared, Act.effect_grantsHeld, ih]
    obtain turn | ⟨mortal, hold, -⟩ := step.hold
    · generalize G'.hold = h at turn
      generalize G'.accepted = a at turn
      cases turn with
      | own allowed => rw [Hold.isHeld_current, Hold.isHeld_after allowed]
      | other allowed still => exact Hold.holdsGrants_of_still allowed still _
    · rw [hold, Act.holdsGrants_of_isMortal mortal]

/-! ## Death -/

/-- A replica is dead because of a task that tears it down or is about to ask for that. -/
structure Mortal (G : Account) : Prop where
  tornDown : G.shared.tornDown = true ↔ G.teardown ≠ .none
  dead : G.shared.state = .dead ↔ 0 < G.dying ∨ G.teardown ≠ .none

theorem Mortal.teardown_of_live (mortal : Mortal G) (live : G.shared.state ≠ .dead) :
    G.teardown = .none :=
  Classical.byContradiction fun begun => live (mortal.dead.mpr (.inr begun))

/-- The teardown begins once. -/
theorem Mortal.first (mortal : Mortal G)
    (possible : Act.Possible G.shared (.accessed .claimTeardown true)) : G.teardown = .none :=
  Classical.byContradiction fun begun => by
    obtain ⟨s', apply⟩ := possible
    simp [Access.apply, mortal.tornDown.mpr begun] at apply

theorem Mortal.step (mortal : Mortal G) (h : Step G e G') : Mortal G' := by
  have state := h.state
  have edge := h.edge
  obtain ⟨tornDown, dead⟩ := mortal
  cases h with
  | live possible allowed =>
    refine ⟨?_, ?_⟩
    · rw [← tornDown, Act.effect_tornDown]
      rintro won rfl
      exact allowed
    · rw [state]
      cases installed : e.installs? with
      | none => simpa using dead
      | some t =>
        have := Edge.live_of_between? (edge t installed)
        cases t <;> simp_all
  | noticed act =>
    refine ⟨tornDown, dead⟩
  | claimed act possible count =>
    subst act
    obtain ⟨s', ⟨⟩⟩ := possible
    have begun : (if !G.shared.tornDown then .tearing .begun else G.teardown) ≠ Death.none := by
      cases torn : G.shared.tornDown with
      | false => simp
      | true => simpa [torn] using tornDown.mp torn
    exact ⟨iff_of_true rfl begun, iff_of_true (dead.mpr (.inl (by omega))) (.inr begun)⟩
  | torn tearing moves =>
    have stays := moves.ne_none
    have silent := Act.installs?_eq_none_of_isMortal moves.isMortal
    refine ⟨?_, ?_⟩
    · rw [Act.effect_tornDown]
      · simp [tornDown, tearing, stays]
      · rintro won rfl
        cases moves
    · rw [state, silent]
      simpa [tearing, stays] using dead

theorem Reached.mortal (h : Reached permits G) : Mortal G := by
  induction h with
  | start => constructor <;> simp
  | step _ _ step ih => exact ih.step step

end Account

end Lifecycle
end Tenure
