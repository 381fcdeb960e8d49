import Tenure.Proofs.Place

/-!
# One account of all tasks

A move is granted once, so each of its works is that of one task, and the same goes for the
teardown and, at any moment, for the lock on grants. An account keeps the variables, the acts of
all tasks and, for each work, the stage its one task is at. The acts of an account are those of a
task at some place; who acts is left open but for the part that it has in each work.
-/
namespace Tenure.Lifecycle

/-! ## Acts -/

/-- The variables after an act. -/
def Act.effect (s : Shared) : Act → Shared
  | accessed (.install _) (.error _) => s
  | accessed (.install target) (.ok _) => { s with state := target }
  | accessed (.setAcknowledged value) _ => { s with acknowledged := value }
  | accessed .claimTeardown _ => { s with tornDown := true }
  | accessed (.replaceSlot grant) _ => { s with slot := some grant }
  | accessed (.withdraw grant previous) _ =>
    if s.slot = some grant then { s with slot := previous } else s
  | accessed .takeSlot _ => { s with slot := none }
  | accessed (.publishDriver driver) _ => { s with driver := some driver }
  | accessed (.lock l) _ => s.setHeld true l
  | accessed (.unlock l) _ => s.setHeld false l
  | _ => s

/-- Whether an access can have its answer without waiting. -/
def Act.Possible (s : Shared) : Act → Prop
  | accessed a x => ∃ s', a.apply s = some (x, s')
  | _ => True

theorem Act.effect_of_apply {a : Access} {x : a.Answer} {s s' : Shared}
    (h : a.apply s = some (x, s')) : s' = (accessed a x).effect s := by
  cases a with
  | install target =>
    simp only [Access.apply, Shared.install, Option.some.injEq] at h
    split at h <;> cases h <;> rfl
  | withdraw grant previous =>
    simp only [Access.apply, Shared.withdraw, Option.some.injEq] at h
    split at h <;> cases h <;> simp_all [effect]
  | lock l =>
    simp only [Access.apply] at h
    split at h <;> cases h
    rfl
  | _ => cases h; rfl

/-- The state that an act has installed. -/
def Act.installs? : Act → Option State
  | accessed (.install target) (.ok _) => some target
  | _ => none

/-! ## Variables after an act -/

namespace Act

/-- The value that an act gives the flag. -/
def marks? : Act → Option Bool
  | accessed (.setAcknowledged value) _ => some value
  | _ => none

/-- Whether an act claims the teardown. -/
def claims : Act → Bool
  | accessed .claimTeardown _ => true
  | _ => false

/-- What is in the slot after an act. -/
def slots (held : Option Grant) : Act → Option Grant
  | accessed (.replaceSlot grant) _ => some grant
  | accessed (.withdraw grant previous) _ => if held = some grant then previous else held
  | accessed .takeSlot _ => none
  | _ => held

/-- The driver that an act publishes. -/
def publishes? : Act → Option DriverId
  | accessed (.publishDriver driver) _ => some driver
  | _ => none

/-- Whether the lock on grants is held after an act. -/
def holdsGrants (held : Bool) : Act → Bool
  | accessed (.lock .grants) _ => true
  | accessed (.unlock .grants) _ => false
  | _ => held

/-- Whether the driver's lock is held after an act. -/
def holdsDriver (held : Bool) : Act → Bool
  | accessed (.lock .driver) _ => true
  | accessed (.unlock .driver) _ => false
  | _ => held

/-- What an act does to each variable. -/
theorem effect_eq (s : Shared) (e : Act) :
    e.effect s =
      { state := e.installs?.getD s.state
        acknowledged := e.marks?.getD s.acknowledged
        tornDown := e.claims || s.tornDown
        slot := e.slots s.slot
        driver := e.publishes?.or s.driver
        grantsHeld := e.holdsGrants s.grantsHeld
        driverHeld := e.holdsDriver s.driverHeld } := by
  cases e with
  | called | answered => rfl
  | accessed a x =>
    cases a with
    | install target => cases x <;> rfl
    | withdraw grant previous =>
      simp only [effect, slots]
      split <;> rfl
    | lock l | unlock l => cases l <;> rfl
    | _ => rfl

theorem effect_state (s : Shared) (e : Act) : (e.effect s).state = e.installs?.getD s.state := by
  rw [effect_eq]

theorem effect_acknowledged (s : Shared) (e : Act) :
    (e.effect s).acknowledged = e.marks?.getD s.acknowledged := by
  rw [effect_eq]

theorem effect_tornDown {e : Act} (h : ∀ won, e ≠ .accessed .claimTeardown won) (s : Shared) :
    (e.effect s).tornDown = s.tornDown := by
  rw [effect_eq]
  fun_cases claims e
  · exact (h _ rfl).elim
  · rfl

theorem effect_slot {e : Act}
    (replaced : ∀ grant previous, e ≠ .accessed (.replaceSlot grant) previous)
    (withdrawn : ∀ grant previous owed, e ≠ .accessed (.withdraw grant previous) owed)
    (taken : ∀ held, e ≠ .accessed .takeSlot held) (s : Shared) : (e.effect s).slot = s.slot := by
  rw [effect_eq]
  fun_cases slots s.slot e
  · exact (replaced _ _ rfl).elim
  · exact (withdrawn _ _ _ rfl).elim
  · exact (withdrawn _ _ _ rfl).elim
  · exact (taken _ rfl).elim
  · rfl

theorem effect_driver (s : Shared) (e : Act) :
    (e.effect s).driver = e.publishes?.or s.driver := by
  rw [effect_eq]

theorem effect_grantsHeld (s : Shared) (e : Act) :
    (e.effect s).grantsHeld = e.holdsGrants s.grantsHeld := by
  rw [effect_eq]

theorem effect_driverHeld (s : Shared) (e : Act) :
    (e.effect s).driverHeld = e.holdsDriver s.driverHeld := by
  rw [effect_eq]

end Act

/-! ## Turns -/

/-- Where a work stands after an act. The task that does the work moves on; any other has no part
in the work before and after. -/
inductive Turn {σ : Type} (allows : σ → Act → Prop) (after : σ → Act → σ) (idle stage : σ)
    (e : Act) : σ → Prop where
  | own (allowed : allows stage e) : Turn allows after idle stage e (after stage e)
  | other (allowed : allows idle e) (still : after idle e = idle) :
      Turn allows after idle stage e stage

namespace Hold

/-- What a task holds while it has the lock on grants. -/
def current : Hold → Hold
  | closed _ _ => none
  | h => h

/-- The grant with which a task leads. -/
def accepted? : Hold → Option Grant
  | closing grant accepted _ => if accepted then some grant else .none
  | closed grant accepted => if accepted then some grant else .none
  | _ => .none

/-- As `Turn`, with the accepted grant beside. -/
inductive Turn (h : Hold) (accepted : Option Grant) (e : Act) : Hold → Option Grant → Prop where
  | own (allowed : h.Allows e) :
      Turn h accepted e (h.after e).current ((h.after e).accepted?.or accepted)
  | other (allowed : Allows none e) (still : after none e = none) : Turn h accepted e h accepted

end Hold

namespace Death

def isDying : Death → Bool
  | dying => true
  | _ => false

/-- A death without what comes before the teardown. -/
def teardown : Death → Death
  | dying => none
  | d => d

end Death

/-! ## Accounts -/

structure Account where
  shared : Shared := {}
  acts : List Act := []
  /-- Of the task that has the lock on grants. -/
  hold : Hold := .none
  accepted : Option Grant := none
  preparing : Preparing := .unbegun
  leading : Leading := .unbegun
  confirming : Confirming := .unbegun
  /-- How many tasks have installed `dead` and have not asked for the teardown yet. -/
  dying : Nat := 0
  teardown : Death := .none

namespace Account

inductive Step (G : Account) (e : Act) : Account → Prop where
  /-- The task that acts is not dying. -/
  | live {h : Hold} {accepted : Option Grant} {p : Preparing} {l : Leading} {c : Confirming}
      (possible : e.Possible G.shared) (allowed : Death.none.Allows e)
      (hold : G.hold.Turn G.accepted e h accepted)
      (preparing : Turn Preparing.Allows Preparing.after .unbegun G.preparing e p)
      (leading : Turn Leading.Allows Leading.after .unbegun G.leading e l)
      (confirming : Turn Confirming.Allows Confirming.after .unbegun G.confirming e c) :
      Step G e
        { shared := e.effect G.shared, acts := G.acts ++ [e], hold := h, accepted, preparing := p,
          leading := l, confirming := c,
          dying := G.dying + if e.installs? = some .dead then 1 else 0, teardown := G.teardown }
  /-- A dying task gives its notice. -/
  | noticed {n : Notice}
      (act : e = .called (.notice n) ∨ ∃ x, e = .answered (.notice n) x) :
      Step G e { G with acts := G.acts ++ [e] }
  | claimed {won : Bool} {dying : Nat} (act : e = .accessed .claimTeardown won)
      (possible : e.Possible G.shared) (count : G.dying = dying + 1) :
      Step G e
        { G with
          shared := e.effect G.shared, acts := G.acts ++ [e], dying,
          teardown := if won then .tearing .begun else G.teardown }
  | torn {stage : Teardown} {d : Death} (tearing : G.teardown = .tearing stage)
      (moves : stage.Moves e d) (possible : e.Possible G.shared) :
      Step G e { G with shared := e.effect G.shared, acts := G.acts ++ [e], teardown := d }

/-- Accounts of tasks that act only as they are permitted to. -/
inductive Reached (permits : Account → Act → Prop) : Account → Prop where
  | start : Reached permits {}
  | step {G G' : Account} {e : Act} (reached : Reached permits G) (permitted : permits G e)
      (step : Step G e G') : Reached permits G'

/-- Any act is permitted at any moment. -/
def freely : Account → Act → Prop := fun _ _ => True

/-- The slot is read only while no grant in it is still to be accepted or taken back. -/
def inTurn : Account → Act → Prop := fun G e =>
  ∀ held, e = .accessed .readSlot held → G.hold.isPending = false

end Account

/-! ## Works -/

section Works

variable {G G' : Account} {e : Act}

/-- A task that is not dying may have a part in any work; a dying one has none. -/
theorem Account.Step.live_or_mortal (h : Step G e G') :
    (G.hold.Turn G.accepted e G'.hold G'.accepted ∧
      Turn Preparing.Allows Preparing.after .unbegun G.preparing e G'.preparing ∧
      Turn Leading.Allows Leading.after .unbegun G.leading e G'.leading ∧
      Turn Confirming.Allows Confirming.after .unbegun G.confirming e G'.confirming) ∨
    (e.isMortal = true ∧ (G'.hold = G.hold ∧ G'.accepted = G.accepted) ∧
      G'.preparing = G.preparing ∧ G'.leading = G.leading ∧ G'.confirming = G.confirming) := by
  cases h with
  | live _ _ hold preparing leading confirming =>
    exact .inl ⟨hold, preparing, leading, confirming⟩
  | noticed act => obtain rfl | ⟨x, rfl⟩ := act <;> exact .inr ⟨rfl, ⟨rfl, rfl⟩, rfl, rfl, rfl⟩
  | claimed act => exact .inr ⟨by rw [act]; rfl, ⟨rfl, rfl⟩, rfl, rfl, rfl⟩
  | torn _ moves => exact .inr ⟨moves.isMortal, ⟨rfl, rfl⟩, rfl, rfl, rfl⟩

theorem Account.Step.hold (h : Step G e G') :
    G.hold.Turn G.accepted e G'.hold G'.accepted ∨
      e.isMortal = true ∧ G'.hold = G.hold ∧ G'.accepted = G.accepted :=
  h.live_or_mortal.imp And.left fun ⟨mortal, same, _⟩ => ⟨mortal, same⟩

theorem Account.Step.preparing (h : Step G e G') :
    Turn Preparing.Allows Preparing.after .unbegun G.preparing e G'.preparing ∨
      e.isMortal = true ∧ G'.preparing = G.preparing :=
  h.live_or_mortal.imp (fun turns => turns.2.1) fun ⟨mortal, _, same, _⟩ => ⟨mortal, same⟩

theorem Account.Step.leading (h : Step G e G') :
    Turn Leading.Allows Leading.after .unbegun G.leading e G'.leading ∨
      e.isMortal = true ∧ G'.leading = G.leading :=
  h.live_or_mortal.imp (fun turns => turns.2.2.1) fun ⟨mortal, _, _, same, _⟩ => ⟨mortal, same⟩

theorem Account.Step.confirming (h : Step G e G') :
    Turn Confirming.Allows Confirming.after .unbegun G.confirming e G'.confirming ∨
      e.isMortal = true ∧ G'.confirming = G.confirming :=
  h.live_or_mortal.imp (fun turns => turns.2.2.2) fun ⟨mortal, _, _, _, same⟩ => ⟨mortal, same⟩

theorem Account.Step.acts (h : Step G e G') : G'.acts = G.acts ++ [e] := by cases h <;> rfl

theorem Account.Step.shared (h : Step G e G') : G'.shared = e.effect G.shared := by
  cases h with
  | noticed act => obtain rfl | ⟨x, rfl⟩ := act <;> rfl
  | _ => rfl

theorem Account.Step.possible (h : Step G e G') : e.Possible G.shared := by
  cases h with
  | noticed act => obtain rfl | ⟨x, rfl⟩ := act <;> trivial
  | live possible | claimed _ possible | torn _ _ possible => exact possible

variable {σ : Type} {allows : σ → Act → Prop} {after : σ → Act → σ} {idle s s' : σ}

/-- What begins a work begins it whoever does it. -/
theorem Turn.eq_idle_iff {begins : Act → Prop}
    (step : ∀ s e, allows s e → (after s e = idle ↔ s = idle ∧ ¬ begins e))
    (mortal : e.isMortal = true → ¬ begins e)
    (h : Turn allows after idle s e s' ∨ e.isMortal = true ∧ s' = s) :
    s' = idle ↔ s = idle ∧ ¬ begins e := by
  rcases h with (allowed | ⟨allowed, still⟩) | ⟨dying, rfl⟩
  · exact step s e allowed
  · have none := (step idle e allowed).mp still
    simp [none.2]
  · simp [mortal dying]

/-- What a work's task may do is all that becomes of the work, if an act that has no part in it
leaves it alone wherever it stands. -/
theorem Turn.moves {moves : σ → Act → σ → Prop} (h : Turn allows after idle s e s')
    (own : ∀ s, allows s e → moves s e (after s e)) (stays : moves idle e idle → moves s e s) :
    moves s e s' := by
  cases h with
  | own allowed => exact own s allowed
  | other allowed still =>
    have moved := own idle allowed
    rw [still] at moved
    exact stays moved

theorem filterMap_append_singleton {α β : Type} (f : α → Option β) (l : List α) (a : α) :
    (l ++ [a]).filterMap f = l.filterMap f ++ (f a).toList := by
  cases h : f a <;> simp [h]

/-- What a work's task puts down of the work is all that is put down of it. -/
theorem Account.Reached.record {β : Type} {permits : Account → Act → Prop}
    (h : Reached permits G) (stage : Account → σ) (record : σ → List β) (adds : Act → Option β)
    (start : record (stage {}) = [])
    (own : ∀ s e, allows s e → record (after s e) = record s ++ (adds e).toList)
    (mortal : ∀ e, e.isMortal = true → adds e = none)
    (turn : ∀ G e G', Step G e G' →
      Turn allows after idle (stage G) e (stage G') ∨ e.isMortal = true ∧ stage G' = stage G) :
    G.acts.filterMap adds = record (stage G) := by
  induction h with
  | start => exact start.symm
  | @step G G' e _ _ step ih =>
    rw [step.acts, filterMap_append_singleton, ih]
    have turned := turn G e G' step
    generalize stage G' = s' at turned
    rcases turned with (allowed | ⟨allowed, still⟩) | ⟨dying, rfl⟩
    · exact (own _ e allowed).symm
    · have none := own idle e allowed
      rw [still, List.self_eq_append_right] at none
      simp [none]
    · simp [mortal e dying]

end Works
end Tenure.Lifecycle
