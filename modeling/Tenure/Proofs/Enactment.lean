import Tenure.Proofs.Asking

/-!
# Moves that are granted

A move that is granted is made known, and then enacted: its work is done, and after a death the
replica is torn down. `Enacts` says that an operation that runs alone does this and asks for nothing
afterwards. All goes well then, unless the storage cannot be made ready or a collaborator panics.
-/
namespace Tenure.Lifecycle

variable {σ α β : Type}

/-! ## What a granted move calls for -/

/-- What follows a move that was granted: its work and, after a death, the teardown. -/
def enact (edge : Edge) : Program Outcome := do
  let outcome ← match edge.duty with
    | some duty => work duty
    | none => pure (.ok ())
  if edge.target.isDead then tearDown
  return outcome

/-- The call that the work of a move begins with. -/
def opening : Duty → Call
  | .prepareStorage => .prepareStorage
  | .takeLead => .repairStorage
  | .confirmRegistration => .post .schedulerActive

/-- The variables when an operation asks for its state. -/
def Operation.entered : Operation → Shared → Shared
  | lead grant, s => { s with slot := some grant, grantsHeld := true }
  | _, s => s

/-- After a move was granted and made known. -/
def Alone.moved (serve : Crew σ) (edge : Edge) (v : Alone σ) : Alone σ where
  shared := { v.shared with state := edge.target }
  crew := (serve (.notice (.installed edge.target)) v.crew).2
  acts := v.acts ++ [.accessed (.install edge.target) (.ok edge)] ++
    [.called (.notice (.installed edge.target)),
      .answered (.notice (.installed edge.target)) (some ())]

/-- The move that an operation asks for at `v` is granted, and carried out as far as `w₁`: then its
work is done, and a dead replica torn down, unless a panic has cut this short. After it nothing is
requested, and what is told is how the work ended. -/
structure Enacts (serve : Crew σ) (operation : Operation) (edge : Edge) (w v w₁ w' : Alone σ)
    (y x : Option Outcome) : Prop where
  entered : v.shared = operation.entered w.shared
  before : w.acts <+: v.acts
  unasked : v.requests = w.requests
  enacted : Alone.run serve (enact edge) (v.moved serve edge) = some (y, w₁)
  opens : ∀ duty, edge.duty = some duty →
    v.calls ++ [.notice (.installed edge.target), opening duty] <+: w₁.calls
  after : w₁.acts <+: w'.acts
  asked : w'.requests = w₁.requests
  shared : w'.shared = w₁.shared.setHeld false .grants
  told : ∀ outcome, x = some outcome → y = some outcome

/-! ## Runs of what is called for -/

namespace Alone

variable {serve : Crew σ} {w w' v : Alone σ} {edge : Edge} {x : Option Outcome}

/-- A move that is granted is made known, and what it calls for follows. -/
theorem run_requestWith_of_granted {act : Duty → Program Outcome} {target : State}
    (careful : serve.Careful) (granted : v.shared.state.move target = .ok edge)
    (works : ∀ duty, edge.duty = some duty → act duty = work duty) :
    run serve (requestWith act target) v = run serve (enact edge) (v.moved serve edge) := by
  obtain rfl := Edge.eq_of_move granted
  have told : (serve (.notice (.installed target)) v.crew).1 = some () := by
    have answers := (careful (.notice (.installed target)) v.crew).resolve_right nofun
    exact (Option.isSome_iff_exists.mp answers).elim fun _ told => told
  refine (run_access (apply_install_of_granted granted)).trans ?_
  show run serve (Program.ask (.notice (.installed target)) >>= _) _ = _
  refine (run_call _ _).trans ?_
  rw [told]
  cases duty : target.duty with
  | none => rfl
  | some d =>
    show run serve (act d >>= _) _ = run serve (work d >>= _) _
    rw [works d duty]
    rfl

theorem run_unrefused (p : Program Unit) :
    run serve (unrefused p) w = (run serve p w).map fun (y, w) => (y.map fun _ => .ok (), w) := by
  rw [unrefused, run_bind]
  cases run serve p w with
  | none => rfl
  | some result =>
    obtain ⟨y, w₁⟩ := result
    cases y <;> rfl

theorem run_kill (reason : String) :
    run serve (kill reason) w =
      (run serve (requestPlain .dead) w).map fun (y, w) => (y.map fun _ => (), w) := by
  show run serve (requestPlain .dead >>= _) w = _
  rw [run_bind]
  cases run serve (requestPlain .dead) w with
  | none => rfl
  | some result =>
    obtain ⟨y, w₁⟩ := result
    match y with
    | none => rfl
    | some (.ok _) => rfl
    | some (.error _) => rfl

theorem run_release (serve : Crew σ) (w : Alone σ) (grant : Grant) :
    ∃ z crew left, run serve (release grant) w =
      some (z, ⟨w.shared, crew,
        w.acts ++ [.called (.leave grant), .answered (.leave grant) left]⟩) := by
  have asked : run serve (release grant) w = _ := run_call (.leave grant) _
  cases served : (serve (.leave grant) w.crew).1 with
  | none =>
    rw [served] at asked
    exact ⟨none, _, _, asked⟩
  | some left =>
    rw [served] at asked
    cases left <;> exact ⟨some (), _, _, asked⟩

theorem calls_prefix_of_call {c : Call} {next : Option c.Answer → Program α} {x : Option α}
    (h : run serve (.call c next) w = some (x, w')) : w.calls ++ [c] <+: w'.calls := by
  rw [run_call] at h
  have acts := (run_grows h).1.filterMap Act.call?
  rwa [List.filterMap_append] at acts

theorem calls_prefix_of_bind {before : List Call} {p : Program α} {f : α → Program β}
    {x : Option β} (h : run serve (p >>= f) w = some (x, w'))
    (first : ∀ y w₁, run serve p w = some (y, w₁) → before <+: w₁.calls) : before <+: w'.calls := by
  obtain ⟨y, w₁, run, rest⟩ := run_bind_inv h
  refine (first y w₁ run).trans ?_
  cases y with
  | some a => exact (run_grows rest).1.filterMap Act.call?
  | none =>
    obtain ⟨-, rfl⟩ := rest
    exact List.prefix_rfl

theorem calls_prefix_of_takeLead {x : Option Unit} (h : run serve takeLead w = some (x, w')) :
    w.calls ++ [.repairStorage] <+: w'.calls := by
  have h : run serve (Program.ask .repairStorage >>= _) w = some (x, w') := h
  exact calls_prefix_of_call h

theorem calls_prefix_of_confirmRegistration {x : Option Unit}
    (state : w.shared.state = .registeredLeader)
    (h : run serve confirmRegistration w = some (x, w')) :
    w.calls ++ [.post .schedulerActive] <+: w'.calls := by
  have acknowledged : run serve acknowledge w = some (some true,
      ⟨{ w.shared with acknowledged := true }, w.crew,
        w.acts ++ [.accessed .readState .registeredLeader] ++
          [.accessed (.setAcknowledged true) ()] ++ [.accessed .readState .registeredLeader]⟩) := by
    obtain ⟨s, crew, acts⟩ := w
    cases s
    cases state
    rfl
  rw [confirmRegistration, run_bind, acknowledged] at h
  have h : run serve (Program.ask (.post .schedulerActive) >>= _) _ = some (x, w') := h
  have calls := calls_prefix_of_call h
  simp [Alone.calls] at calls ⊢
  exact calls

/-- The work of a move begins at once. -/
theorem calls_prefix_of_enact {duty : Duty} (calls : edge.duty = some duty)
    (works : edge.duty = edge.target.duty) (state : w.shared.state = edge.target)
    (h : run serve (enact edge) w = some (x, w')) : w.calls ++ [opening duty] <+: w'.calls := by
  rw [enact, calls] at h
  refine calls_prefix_of_bind h fun y w₁ h => ?_
  cases duty with
  | prepareStorage => exact calls_prefix_of_call h
  | takeLead => exact calls_prefix_of_bind h fun _ _ => calls_prefix_of_takeLead
  | confirmRegistration =>
    have target : edge.target = .registeredLeader := by
      cases target : edge.target <;> simp_all [State.duty]
    exact calls_prefix_of_bind h fun _ _ => calls_prefix_of_confirmRegistration (state.trans target)

theorem run_requestPlain_storagePrepared (careful : serve.Careful)
    (state : v.shared.state = .preparingStorage) :
    run serve (requestPlain .storagePrepared) v =
      some (some (.ok ()), v.moved serve ⟨.preparingStorage, .storagePrepared, none⟩) := by
  have granted : v.shared.state.move .storagePrepared =
      .ok ⟨.preparingStorage, .storagePrepared, none⟩ := by
    rw [state]
    rfl
  rw [requestPlain, run_requestWith_of_granted careful granted nofun]
  rfl

/-- A preparation fails only if the storage does. -/
theorem outcome_of_prepareStorage (careful : serve.Careful)
    (state : w.shared.state = .preparingStorage) {outcome : Outcome}
    (h : run serve prepareStorage w = some (some outcome, w')) :
    outcome = .ok () ∨ ∃ e, .answered .prepareStorage (some (.error e)) ∈ w'.acts ∧
      outcome = .error (.storageInitialization e) := by
  have h := (run_call .prepareStorage _).symm.trans h
  generalize served : (serve .prepareStorage w.crew).1 = answer at h
  match answer with
  | none => cases h
  | some (.error e) =>
    refine .inr ⟨e, (run_grows h).1.subset (by simp), ?_⟩
    exact eq_of_run_pure (p := kill "storage preparation failed") h
  | some (.ok ()) =>
    left
    obtain ⟨y, w₁, asked, rest⟩ := run_bind_inv (p := requestPlain .storagePrepared) h
    rw [run_requestPlain_storagePrepared careful (by exact state)] at asked
    cases asked
    cases rest
    rfl

/-- A move that was granted goes well, but for a storage that cannot be made ready. -/
theorem outcome_of_enact (careful : serve.Careful) (works : edge.duty = edge.target.duty)
    (state : w.shared.state = edge.target) {outcome : Outcome}
    (h : run serve (enact edge) w = some (some outcome, w')) :
    outcome = .ok () ∨ ∃ e, edge.duty = some .prepareStorage ∧
      .answered .prepareStorage (some (.error e)) ∈ w'.acts ∧
      outcome = .error (.storageInitialization e) := by
  have concluded (o : Outcome) (v : Alone σ)
      (h : run serve (if edge.target.isDead then tearDown >>= fun _ => pure o else pure o) v =
        some (some outcome, w')) : outcome = o ∧ v.acts <+: w'.acts := by
    refine ⟨?_, (run_grows h).1⟩
    split at h
    · exact eq_of_run_pure h
    · cases h
      rfl
  rw [enact] at h
  cases duty : edge.duty with
  | none =>
    rw [duty] at h
    exact .inl (concluded (.ok ()) w h).1
  | some d =>
    rw [duty] at h
    obtain ⟨y, w₁, worked, rest⟩ := run_bind_inv h
    cases y with
    | none => cases rest.1
    | some o =>
      obtain ⟨rfl, acts⟩ := concluded o w₁ rest
      cases d with
      | takeLead => exact .inl (eq_of_run_pure (p := takeLead) worked)
      | confirmRegistration => exact .inl (eq_of_run_pure (p := confirmRegistration) worked)
      | prepareStorage =>
        have target : edge.target = .preparingStorage := by
          cases target : edge.target <;> simp_all [State.duty]
        refine (outcome_of_prepareStorage careful (state.trans target) worked).imp_right ?_
        rintro ⟨e, failed, told⟩
        exact ⟨e, rfl, acts.subset failed, told⟩

end Alone

/-! ## Operations -/

section Operations

variable {serve : Crew σ} {operation : Operation} {w w' : Alone σ} {target : State} {edge : Edge}
  {x : Option Outcome}

theorem Alone.run_kill_of_live (live : w.shared.state.isDead = false) (entry : Log.Entry)
    (reason : String) :
    Alone.run serve
        (Program.touch .readState >>= fun s => if s.isDead then pure () else
          Program.log entry >>= fun _ => kill reason) w =
      Alone.run serve (kill reason)
        { w with acts := w.acts ++ [.accessed .readState w.shared.state] } := by
  refine (Alone.run_access (x := w.shared.state) rfl).trans ?_
  show Alone.run serve (if w.shared.state.isDead = true then _ else _) _ = _
  rw [live]
  rfl

/-- A timer that asks for a state asks for `dead`, after it has looked around. -/
theorem Timer.run_callback {timer : Timer}
    (asks : (Operation.runOut timer).target? serve w = some target) :
    target = .dead ∧ ∃ reason v, v.shared = w.shared ∧ w.acts <+: v.acts ∧
      v.requests = w.requests ∧
      Alone.run serve timer.callback w = Alone.run serve (kill reason) v := by
  cases timer with
  | registration =>
    simp only [Operation.target?, Option.ite_none_left_eq_some, Bool.or_eq_true, not_or,
      Bool.not_eq_true] at asks
    obtain ⟨⟨due, live⟩, dies⟩ := asks
    cases dies
    have runs : Alone.run serve registrationDue w = Alone.run serve (kill "registration timeout")
        { w with
          acts := w.acts ++ [.accessed .readAcknowledged false] ++
            [.accessed .readState w.shared.state] } := by
      refine (Alone.run_access (x := w.shared.acknowledged) rfl).trans ?_
      rw [due]
      exact Alone.run_kill_of_live
        (w := { w with acts := w.acts ++ [.accessed .readAcknowledged false] }) live _ _
    refine ⟨rfl, _, _, ?_, ?_, ?_, runs⟩ <;> simp [Alone.requests, Act.request?]
  | failover =>
    simp only [Operation.target?, Option.ite_none_left_eq_some, Bool.not_eq_true] at asks
    obtain ⟨live, dies⟩ := asks
    cases dies
    have runs : Alone.run serve failoverDue w = _ := Alone.run_kill_of_live live _ _
    refine ⟨rfl, _, _, ?_, ?_, ?_, runs⟩ <;> simp [Alone.requests, Act.request?]
  | join driver =>
    obtain ⟨returns, dies⟩ := Option.ite_none_right_eq_some.mp asks
    cases dies
    obtain ⟨status, answered⟩ := Option.isSome_iff_exists.mp returns
    have runs : Alone.run serve (driverExit driver) w = Alone.run serve (kill "driver exited")
        ⟨w.shared, (serve (.joinDriver driver) w.crew).2,
          w.acts ++
            [.called (.joinDriver driver), .answered (.joinDriver driver) (some status)]⟩ := by
      refine (Alone.run_call (.joinDriver driver) _).trans ?_
      rw [answered]
      rfl
    refine ⟨rfl, _, _, ?_, ?_, ?_, runs⟩ <;> simp [Alone.requests, Act.request?]

theorem Shared.setHeld_of_free {s : Shared} (free : s.grantsHeld = false) :
    s.setHeld false .grants = s := by
  cases s
  cases free
  rfl

theorem Enacts.of_enacted {v w₁ : Alone σ} {y : Option Outcome}
    (granted : v.shared.state.move target = .ok edge)
    (entered : v.shared = operation.entered w.shared) (before : w.acts <+: v.acts)
    (unasked : v.requests = w.requests)
    (enacted : Alone.run serve (enact edge) (v.moved serve edge) = some (y, w₁))
    (after : w₁.acts <+: w'.acts) (asked : w'.requests = w₁.requests)
    (shared : w'.shared = w₁.shared.setHeld false .grants)
    (told : ∀ outcome, x = some outcome → y = some outcome) :
    Enacts serve operation edge w v w₁ w' y x := by
  obtain rfl := Edge.eq_of_move granted
  refine ⟨entered, before, unasked, enacted, fun duty calls => ?_, after, asked, shared, told⟩
  have opens := Alone.calls_prefix_of_enact calls rfl rfl enacted
  simp [Alone.calls, Alone.moved] at opens ⊢
  exact opens

/-- An operation that asks for its state at once, and for nothing afterwards. -/
theorem Enacts.of_request {act : Duty → Program Outcome} {v : Alone σ} {y : Option Outcome}
    (careful : serve.Careful) (granted : v.shared.state.move target = .ok edge)
    (works : ∀ duty, edge.duty = some duty → act duty = work duty)
    (entered : v.shared = operation.entered w.shared) (before : w.acts <+: v.acts)
    (unasked : v.requests = w.requests) (freed : w'.shared.grantsHeld = false)
    (run : Alone.run serve (requestWith act target) v = some (y, w'))
    (told : ∀ outcome, x = some outcome → y = some outcome) :
    Enacts serve operation edge w v w' w' y x := by
  rw [Alone.run_requestWith_of_granted careful granted works] at run
  exact .of_enacted granted entered before unasked run List.prefix_rfl rfl
    (Shared.setHeld_of_free freed).symm told

/-- A request of `dead` is granted, and nothing can go wrong with it but a panic. -/
theorem Enacts.of_kill {v : Alone σ} {reason : String} {y : Option Unit} (careful : serve.Careful)
    (entered : v.shared = operation.entered w.shared) (before : w.acts <+: v.acts)
    (unasked : v.requests = w.requests) (freed : w'.shared.grantsHeld = false)
    (run : Alone.run serve (kill reason) v = some (y, w')) :
    ∃ y', Enacts serve operation ⟨v.shared.state, .dead, none⟩ w v w' w' y'
      (y.map fun _ => .ok ()) := by
  rw [Alone.run_kill] at run
  obtain ⟨⟨y', w₁⟩, asked, eq⟩ := Option.map_eq_some_iff.mp run
  cases eq
  have granted := v.shared.state.move_dead
  have enacted := asked
  rw [requestPlain, Alone.run_requestWith_of_granted careful granted nofun] at enacted
  refine ⟨y', .of_request careful granted nofun entered before unasked freed asked ?_⟩
  intro outcome told
  cases y' with
  | none => cases told
  | some o =>
    cases told
    rcases Alone.outcome_of_enact careful rfl rfl enacted with rfl | ⟨e, duty, -⟩
    · rfl
    · cases duty

/-- Once the lead is taken, nothing follows but that a grant from before is left. -/
theorem Alone.run_takeUp_inv {v : Alone σ} {grant : Grant} {previous : Option Grant}
    (careful : serve.Careful)
    (granted : v.shared.state.move .leaderAwaitingRegistration = .ok edge)
    (run : Alone.run serve (takeUp grant previous) v = some (x, w')) :
    ∃ y w₁, Alone.run serve (enact edge) (v.moved serve edge) = some (y, w₁) ∧
      w₁.acts <+: w'.acts ∧ w'.requests = w₁.requests ∧ w'.shared = w₁.shared ∧
      ∀ outcome, x = some outcome → y = some outcome := by
  obtain ⟨y, w₁, enacted, rest⟩ :=
    Alone.run_bind_inv (p := Lifecycle.request .leaderAwaitingRegistration) run
  rw [Lifecycle.request, Alone.run_requestWith_of_granted careful granted fun _ _ => rfl] at enacted
  refine ⟨y, w₁, enacted, ?_⟩
  cases y with
  | none =>
    obtain ⟨rfl, rfl⟩ := rest
    exact ⟨List.prefix_rfl, rfl, rfl, nofun⟩
  | some outcome =>
    have duty : edge.duty = some .takeLead := by rw [Edge.eq_of_move granted]; rfl
    obtain rfl : outcome = .ok () := by
      obtain rfl := Edge.eq_of_move granted
      rcases Alone.outcome_of_enact careful rfl rfl enacted with ok | ⟨e, other, -⟩
      · exact ok
      · cases other
    cases previous with
    | none =>
      cases rest
      exact ⟨List.prefix_rfl, rfl, rfl, fun _ => id⟩
    | some stale =>
      obtain ⟨z, w₂, released, last⟩ := Alone.run_bind_inv (p := release stale) rest
      obtain ⟨z', crew, left, run⟩ := Alone.run_release serve w₁ stale
      cases run.symm.trans released
      have ends : w' = ⟨w₁.shared, crew, w₁.acts ++
            [.called (.leave stale), .answered (.leave stale) left]⟩ ∧
          ∀ outcome, x = some outcome → outcome = .ok () := by
        cases z with
        | some =>
          cases last
          exact ⟨rfl, fun _ eq => (Option.some.inj eq).symm⟩
        | none =>
          obtain ⟨rfl, rfl⟩ := last
          exact ⟨rfl, nofun⟩
      obtain ⟨rfl, told⟩ := ends
      refine ⟨List.prefix_append _ _, ?_, rfl, fun outcome eq => by rw [told outcome eq]⟩
      simp [Alone.requests, Act.request?]

theorem Enacts.of_lead {grant : Grant} (careful : serve.Careful)
    (free : w.shared.grantsHeld = false)
    (granted : w.shared.state.move .leaderAwaitingRegistration = .ok edge)
    (run : Alone.run serve (lead grant) w = some (x, w')) :
    ∃ v w₁ y, Enacts serve (.lead grant) edge w v w₁ w' y x := by
  let v : Alone σ := ⟨(Operation.lead grant).entered w.shared, w.crew, w.acts ++
    [.accessed (.lock .grants) ()] ++ [.accessed (.replaceSlot grant) w.shared.slot]⟩
  obtain ⟨x', w₂, z, body, unlocked, rfl⟩ :=
    Alone.run_ensure_inv ((Alone.run_access (Access.apply_lock (l := .grants) free)).symm.trans run)
  have placed : (Access.replaceSlot grant).apply { w.shared with grantsHeld := true } =
      some (w.shared.slot, v.shared) := rfl
  have body : Alone.run serve (takeUp grant w.shared.slot) v = some (x', w₂) :=
    (Alone.run_access placed).symm.trans body
  cases (Alone.run_access (a := .unlock .grants) rfl).symm.trans unlocked
  obtain ⟨y, w₁, enacted, after, asked, shared, told⟩ :=
    Alone.run_takeUp_inv (v := v) careful granted body
  refine ⟨v, w₁, y, .of_enacted granted rfl ?_ ?_ enacted ?_ ?_ ?_ ?_⟩
  · simp [v]
  · simp [v, Alone.requests, Act.request?]
  · exact after.trans (List.prefix_append _ _)
  · rw [← asked]
    simp [Alone.requests, Act.request?]
  · rw [← shared]
  · intro outcome eq
    exact told outcome eq

theorem Operation.enacts (careful : serve.Careful) (free : w.shared.grantsHeld = false)
    (asks : operation.target? serve w = some target)
    (granted : w.shared.state.move target = .ok edge)
    (run : Alone.run serve operation.program w = some (x, w'))
    (freed : w'.shared.grantsHeld = false) :
    ∃ v w₁ y, Enacts serve operation edge w v w₁ w' y x := by
  cases operation with
  | prepare | request | registered =>
    cases asks
    exact ⟨w, w', x, .of_request careful granted (fun _ _ => rfl) rfl List.prefix_rfl rfl freed run
      fun _ => id⟩
  | lead grant =>
    cases asks
    exact Enacts.of_lead careful free granted run
  | stepDown status =>
    cases asks
    obtain rfl := Edge.eq_of_move granted
    rw [program, Alone.run_unrefused] at run
    obtain ⟨⟨y, w₁⟩, killed, eq⟩ := Option.map_eq_some_iff.mp run
    cases eq
    exact ⟨w, w', Enacts.of_kill careful rfl List.prefix_rfl rfl freed killed⟩
  | runOut timer =>
    obtain ⟨rfl, reason, v, shared, before, unasked, runs⟩ := Timer.run_callback asks
    obtain rfl := Edge.eq_of_move granted
    rw [program, Alone.run_unrefused, runs] at run
    obtain ⟨⟨y, w₁⟩, killed, eq⟩ := Option.map_eq_some_iff.mp run
    cases eq
    obtain ⟨y', enacts⟩ : ∃ y', Enacts serve (.runOut timer) _ w v w' w' y' _ :=
      Enacts.of_kill careful shared before unasked freed killed
    rw [shared] at enacts
    exact ⟨v, w', y', enacts⟩

/-- What is told of a granted move: that all went well, or that the storage cannot be made ready. -/
theorem Enacts.outcome {v w₁ : Alone σ} {y : Option Outcome} (careful : serve.Careful)
    (granted : w.shared.state.move target = .ok edge)
    (h : Enacts serve operation edge w v w₁ w' y x) {outcome : Outcome}
    (told : x = some outcome) : outcome = .ok () ∨ ∃ e, edge.duty = some .prepareStorage ∧
      .answered .prepareStorage (some (.error e)) ∈ w'.acts ∧
      outcome = .error (.storageInitialization e) := by
  obtain rfl := Edge.eq_of_move granted
  have enacted := h.enacted
  rw [h.told outcome told] at enacted
  refine (Alone.outcome_of_enact careful rfl rfl enacted).imp_right ?_
  rintro ⟨e, duty, failed, eq⟩
  exact ⟨e, duty, h.after.subset failed, eq⟩

/-- What comes of a move that is granted. It is the first that the operation requests, it is carried
out, and what is told is that all went well, or that the storage cannot be made ready. -/
structure Executes (serve : Crew σ) (operation : Operation) (target : State) (edge : Edge)
    (w : Alone σ) (x : Option Outcome) (w' : Alone σ) : Prop where
  requested : w.requests ++ [(target, .ok edge)] <+: w'.requests
  reached : target.rank ≤ w'.shared.state.rank
  enacted : ∃ v w₁ y, Enacts serve operation edge w v w₁ w' y x
  outcome : ∀ outcome, x = some outcome → outcome = .ok () ∨
    ∃ e, edge.duty = some .prepareStorage ∧
      .answered .prepareStorage (some (.error e)) ∈ w'.acts ∧
      outcome = .error (.storageInitialization e)

theorem Operation.executes (careful : serve.Careful) (free : w.shared.grantsHeld = false)
    (asks : operation.target? serve w = some target)
    (granted : w.shared.state.move target = .ok edge)
    (run : Alone.run serve operation.program w = some (x, w'))
    (freed : w'.shared.grantsHeld = false) :
    Executes serve operation target edge w x w' := by
  have reaches : Asks serve (some target) operation.program w := asks ▸ operation.asks free
  obtain ⟨requested, reached⟩ := reaches.granted granted run
  obtain ⟨v, w₁, y, enacts⟩ := Operation.enacts careful free asks granted run freed
  exact ⟨requested, reached, ⟨v, w₁, y, enacts⟩, fun _ => enacts.outcome careful granted⟩

/-- Who asks for `dead` gets it, and is told so unless a collaborator panics. -/
theorem Operation.dies (careful : serve.Careful) (free : w.shared.grantsHeld = false)
    (asks : operation.target? serve w = some .dead)
    (run : Alone.run serve operation.program w = some (x, w'))
    (freed : w'.shared.grantsHeld = false) :
    w'.shared.state = .dead ∧ (x = some (.ok ()) ∨ x = none) := by
  have executes := Operation.executes careful free asks w.shared.state.move_dead run freed
  refine ⟨State.eq_dead_of_rank_le executes.reached, ?_⟩
  cases x with
  | none => exact .inr rfl
  | some outcome =>
    rcases executes.outcome outcome rfl with rfl | ⟨e, duty, -⟩
    · exact .inl rfl
    · cases duty

end Operations

end Tenure.Lifecycle
