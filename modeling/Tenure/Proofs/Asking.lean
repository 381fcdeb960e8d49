import Tenure.Proofs.Alone

/-!
# What a single operation asks for

An operation that runs alone asks for one state at most, after steps that ask for nothing. If it
asks for none it changes nothing. If its move is refused it is told so and changes nothing either.
-/
namespace Tenure.Lifecycle

variable {σ α β : Type}

/-! ## Asking for a state -/

/-- The state that an operation asks for first. A timer asks for nothing when it comes too late,
nor does the end of a driver that was not waited for to the end. -/
def Operation.target? (serve : Crew σ) (w : Alone σ) : Operation → Option State
  | prepare => some .preparingStorage
  | lead _ => some .leaderAwaitingRegistration
  | stepDown _ => some .dead
  | registered _ => some .registeredLeader
  | request target => some target
  | runOut .registration =>
    if w.shared.acknowledged || w.shared.state.isDead then none else some .dead
  | runOut .failover => if w.shared.state.isDead then none else some .dead
  | runOut (.join driver) =>
    if (serve (.joinDriver driver) w.crew).1.isSome then some .dead else none

/-- A program that runs alone asks for a state after steps that ask for nothing, or for none. -/
inductive Asks (serve : Crew σ) : Option State → Program α → Alone σ → Prop where
  | ended {w : Alone σ} (a : α) : Asks serve none (.done a) w
  | fled {w : Alone σ} : Asks serve none .unwind w
  | ask {w : Alone σ} (target : State) (next : Except IllegalMove Edge → Program α) :
      Asks serve (some target) (.access (.install target) next) w
  | note {w : Alone σ} {target : Option State} {entry : Log.Entry} {next : Program α}
      (rest : Asks serve target next w) : Asks serve target (.note entry next) w
  | touch {w : Alone σ} {target : Option State} {a : Access} {next : a.Answer → Program α}
      {x : a.Answer} {s : Shared} (apply : a.apply w.shared = some (x, s))
      (silent : (Act.accessed a x).request? = none) (state : s.state = w.shared.state)
      (same : target = none → s = w.shared)
      (rest : Asks serve target (next x)
        { w with shared := s, acts := w.acts ++ [.accessed a x] }) :
      Asks serve target (.access a next) w
  | call {w : Alone σ} {target : Option State} {c : Call} {next : Option c.Answer → Program α}
      (rest : Asks serve target (next (serve c w.crew).1)
        { w with
          crew := (serve c w.crew).2
          acts := w.acts ++ [.called c, .answered c (serve c w.crew).1] }) :
      Asks serve target (.call c next) w

namespace Alone

variable {serve : Crew σ} {w w' : Alone σ}

theorem requests_append (s : Shared) (crew : σ) (acts : List Act) :
    (⟨s, crew, w.acts ++ acts⟩ : Alone σ).requests = w.requests ++ acts.filterMap Act.request? :=
  List.filterMap_append

theorem requests_append_of_silent (s : Shared) (crew : σ) {e : Act} (silent : e.request? = none) :
    (⟨s, crew, w.acts ++ [e]⟩ : Alone σ).requests = w.requests := by
  rw [requests_append]
  simp [silent]

theorem apply_install_of_granted {s : Shared} {target : State} {edge : Edge}
    (granted : s.state.move target = .ok edge) :
    (Access.install target).apply s = some (.ok edge, { s with state := target }) := by
  simp [Access.apply, Shared.install, granted]

theorem apply_install_of_refused {s : Shared} {target : State} {e : IllegalMove}
    (refused : s.state.move target = .error e) :
    (Access.install target).apply s = some (.error e, s) := by
  simp [Access.apply, Shared.install, refused]

theorem ComesTo.requestWith_of_refused {ends : Option α → Alone σ → Prop} {s : Shared} {crew : σ}
    {acts : List Act} {act : Duty → Program Outcome} {target : State} {e : IllegalMove}
    {f : Outcome → Program α} (refused : s.state.move target = .error e)
    (h : ComesTo serve ends (f (.error (.illegalMove e)))
      ⟨s, crew, acts ++ [.accessed (.install target) (.error e)]⟩) :
    ComesTo serve ends (requestWith act target >>= f) ⟨s, crew, acts⟩ :=
  .touch (apply_install_of_refused refused) h

end Alone

namespace Asks

variable {serve : Crew σ} {w w' : Alone σ} {p : Program α} {x : Option α} {target : State}

/-- Who asks for nothing changes nothing. -/
theorem idle (h : Asks serve none p w) (run : Alone.run serve p w = some (x, w')) :
    w'.shared = w.shared ∧ w'.requests = w.requests := by
  generalize asks : none = asked at h
  induction h with
  | ask => cases asks
  | ended | fled =>
    cases run
    exact ⟨rfl, rfl⟩
  | note _ ih => exact ih run asks
  | touch apply silent state same _ ih =>
    rw [Alone.run_access apply] at run
    obtain ⟨shared, requests⟩ := ih run asks
    exact ⟨shared.trans (same asks.symm),
      requests.trans (Alone.requests_append_of_silent _ _ silent)⟩
  | call _ ih =>
    rw [Alone.run_call] at run
    obtain ⟨shared, requests⟩ := ih run asks
    exact ⟨shared, requests.trans ((Alone.requests_append _ _ _).trans (List.append_nil _))⟩

/-- A granted request comes first, and takes the replica on to its target or beyond. -/
theorem granted {edge : Edge} (h : Asks serve (some target) p w)
    (granted : w.shared.state.move target = .ok edge)
    (run : Alone.run serve p w = some (x, w')) :
    w.requests ++ [(target, .ok edge)] <+: w'.requests ∧
      target.rank ≤ w'.shared.state.rank := by
  generalize asks : some target = asked at h
  induction h with
  | ended | fled => cases asks
  | ask =>
    cases asks
    rw [Alone.run_access (Alone.apply_install_of_granted granted)] at run
    obtain ⟨acts, rank⟩ := Alone.run_grows run
    have requested := Alone.requests_prefix acts
    rw [Alone.requests_append] at requested
    exact ⟨requested, rank⟩
  | note _ ih => exact ih granted run asks
  | touch apply silent state _ _ ih =>
    rw [Alone.run_access apply] at run
    have requested := ih (by rw [← granted, state]) run asks
    rwa [Alone.requests_append_of_silent _ _ silent] at requested
  | call _ ih =>
    rw [Alone.run_call] at run
    have requested := ih granted run asks
    rwa [Alone.requests_append, show List.filterMap Act.request? _ = [] from rfl,
      List.append_nil] at requested

end Asks

section Operations

variable {serve : Crew σ} {w w' : Alone σ} {x : Option Outcome}

theorem Timer.asks (timer : Timer) :
    Asks serve ((Operation.runOut timer).target? serve w) (unrefused timer.callback) w := by
  cases timer with
  | registration =>
    refine .touch (x := w.shared.acknowledged) (s := w.shared) rfl rfl rfl (fun _ => rfl) ?_
    cases acknowledged : w.shared.acknowledged with
    | true =>
      simp only [Operation.target?, acknowledged]
      exact .note (.ended _)
    | false =>
      refine .touch rfl rfl rfl (fun _ => rfl) ?_
      simp only [Operation.target?, acknowledged]
      cases w.shared.state with
      | dead => exact .ended _
      | _ => exact .note (.note (.ask _ _))
  | failover =>
    refine .touch rfl rfl rfl (fun _ => rfl) ?_
    simp only [Operation.target?]
    cases w.shared.state with
    | dead => exact .ended _
    | _ => exact .note (.note (.ask _ _))
  | join driver =>
    refine .call ?_
    simp only [Operation.target?]
    cases (serve (.joinDriver driver) w.crew).1 with
    | none => exact .fled
    | some => exact .note (.note (.ask _ _))

theorem Operation.asks (operation : Operation) (free : w.shared.grantsHeld = false) :
    Asks serve (operation.target? serve w) operation.program w := by
  cases operation with
  | prepare => exact .ask _ _
  | request => exact .ask _ _
  | registered => exact .note (.ask _ _)
  | stepDown => exact .note (.note (.ask _ _))
  | runOut timer => exact timer.asks
  | lead grant =>
    exact .touch (Access.apply_lock free) rfl rfl (fun lost => by cases lost)
      (.touch rfl rfl rfl (fun lost => by cases lost) (.ask _ _))

/-- What does not panic answers. -/
theorem Crew.Careful.ne_none (careful : serve.Careful) {c : Call} (sure : c.mayPanic = false)
    {crew crew' : σ} : serve c crew ≠ (none, crew') := by
  intro panicked
  have answered := (careful c crew).resolve_right (by simp [sure])
  rw [panicked] at answered
  cases answered

/-- What is done with a grant that is refused: it is taken back out of the slot, and left. -/
def Act.turnsDown (grant : Grant) (previous : Option Grant) (e : IllegalMove)
    (left : Option (Except LeadershipError Unit)) : List Act :=
  [.accessed (.lock .grants) (), .accessed (.replaceSlot grant) previous,
    .accessed (.install .leaderAwaitingRegistration) (.error e),
    .called (.notice .grantRefused), .answered (.notice .grantRefused) (some ()),
    .accessed (.withdraw grant previous) (some grant),
    .called (.leave grant), .answered (.leave grant) left, .accessed (.unlock .grants) ()]

/-- A grant that is refused is turned down, and the variables are as they were. Only a panic of the
election keeps the refusal from the caller. -/
theorem Alone.comesTo_lead_of_refused {s : Shared} {e : IllegalMove} (grant : Grant) (crew : σ)
    (acts : List Act) (careful : serve.Careful) (free : s.grantsHeld = false)
    (refused : s.state.move .leaderAwaitingRegistration = .error e) :
    ComesTo serve
      (fun x w => w.shared = s ∧ ∃ crew',
        w.acts = acts ++ Act.turnsDown grant s.slot e (serve (.leave grant) crew').1 ∧
        x = (serve (.leave grant) crew').1.map fun _ => .error (.illegalMove e))
      (lead grant) ⟨s, crew, acts⟩ := by
  have withdraw : (Access.withdraw grant s.slot).apply
      { s with slot := some grant, grantsHeld := true } =
        some (some grant, { s with grantsHeld := true }) := by
    simp [Access.apply, Shared.withdraw]
  have unlock : (Access.unlock .grants).apply { s with grantsHeld := true } = some ((), s) := by
    cases s
    cases free
    rfl
  refine .withLock free (.touch rfl (.requestWith_of_refused refused ?_))
  refine .log (.ask (fun crew' panicked => (careful.ne_none rfl panicked).elim) fun _ crew₁ _ => ?_)
  refine .touch withdraw ?_
  rw [releaseIfAny, release, Program.bind_bind]
  refine .ask (fun crew₂ left => .touchLast unlock ⟨rfl, crew₁, ?_⟩) fun x crew₂ left => ?_
  · simp [left, Act.turnsDown, Shared.setHeld]
  cases x with
  | ok =>
    refine .done (.touchLast unlock ⟨rfl, crew₁, ?_⟩)
    simp [left, Act.turnsDown, Shared.setHeld]
  | error =>
    refine .log (.done (.touchLast unlock ⟨rfl, crew₁, ?_⟩))
    simp [left, Act.turnsDown, Shared.setHeld]

theorem Operation.refused {operation : Operation} {target : State} {e : IllegalMove}
    (careful : serve.Careful) (free : w.shared.grantsHeld = false)
    (asks : operation.target? serve w = some target)
    (refused : w.shared.state.move target = .error e)
    (run : Alone.run serve operation.program w = some (x, w')) :
    w'.shared = w.shared ∧ w'.requests = w.requests ++ [(target, .error e)] ∧
      ∀ outcome, x = some outcome → outcome = .error (.illegalMove e) := by
  have live : target ≠ .dead := by
    rintro rfl
    simp [State.move_dead] at refused
  cases operation with
  | prepare | request =>
    cases asks
    cases run.symm.trans (Alone.run_access (Alone.apply_install_of_refused refused))
    exact ⟨rfl, Alone.requests_append _ _ _, fun _ eq => (Option.some.inj eq).symm⟩
  | registered frameworkId =>
    cases asks
    have run : Alone.run serve (Lifecycle.request .registeredLeader) w = some (x, w') := run
    cases run.symm.trans (Alone.run_access (Alone.apply_install_of_refused refused))
    exact ⟨rfl, Alone.requests_append _ _ _, fun _ eq => (Option.some.inj eq).symm⟩
  | lead grant =>
    cases asks
    obtain ⟨y, w₁, led, shared, crew, acts, ended⟩ :=
      Alone.comesTo_lead_of_refused grant w.crew w.acts careful free refused
    cases run.symm.trans led
    refine ⟨shared, ?_, fun outcome told => ?_⟩
    · rw [Alone.requests, acts, List.filterMap_append]
      rfl
    · rw [ended] at told
      obtain ⟨-, -, eq⟩ := Option.map_eq_some_iff.mp told
      exact eq.symm
  | stepDown => exact (live (Option.some.inj asks).symm).elim
  | runOut timer =>
    refine (live ?_).elim
    cases timer <;> (simp only [Operation.target?] at asks; split at asks <;> simp_all)

/-- Only a timer may ask for nothing, and it is not told so. -/
theorem Operation.idle {operation : Operation} (free : w.shared.grantsHeld = false)
    (asks : operation.target? serve w = none)
    (run : Alone.run serve operation.program w = some (x, w')) :
    w'.shared = w.shared ∧ w'.requests = w.requests ∧
      ∀ outcome, x = some outcome → outcome = .ok () := by
  have silent : Asks serve none operation.program w := asks ▸ operation.asks free
  obtain ⟨shared, requests⟩ := silent.idle run
  refine ⟨shared, requests, fun outcome told => ?_⟩
  subst told
  cases operation with
  | runOut timer => exact Alone.eq_of_run_pure (p := timer.callback) run
  | _ => cases asks

end Operations

end Tenure.Lifecycle
