import Tenure.Proofs.Deadline
import Tenure.Proofs.Presence
import Tenure.Proofs.Signal

/-!
# What becomes of a preparation

While a storage is made ready the replica may be used, from inside the storage itself, and may
even die. A preparation learns of that only when it asks for its next state. So how it ends is
told by the answer of the storage and by whether the replica has died meanwhile, and a replica
whose preparation fails has been torn down before it ever led.
-/
namespace Tenure.Lifecycle

variable {σ α : Type}

/-! ## Who has done with a death -/

namespace Trace

/-- The place that the acts of a task lead to. -/
def place (i : Nat) (t : Trace) : Place := (t.acts i).foldl Place.after {}

/-- Nobody tears the replica down or is about to. -/
def Settled (t : Trace) : Prop := ∀ i, (t.place i).death.isOver = true

theorem acts_of_others {i j : Nat} (ne : j ≠ i) (acts : List Act) :
    Trace.acts j (acts.map fun e => (i, e)) = [] := by
  simp [Trace.acts, List.filterMap_map, Ne.symm ne]

end Trace

namespace Adequate

variable {p : Pool} {l : List Actor} {G : Account} {permits : Account → Act → Prop}

/-- The places of the tasks are those of the trace; nobody else has done anything. -/
theorem place_cases (h : Adequate p l G) (i : Nat) :
    (∃ x, l[i]? = some x ∧ x.place = p.trace.place i) ∨ l.length ≤ i ∧ p.trace.place i = {} := by
  by_cases lt : i < l.length
  · exact .inl ⟨l[i], List.getElem?_eq_getElem lt,
      (h.walks i _ (List.getElem?_eq_getElem lt)).eq_foldl⟩
  · refine .inr ⟨Nat.le_of_not_lt lt, ?_⟩
    rw [Trace.place, Trace.acts_eq_nil fun entry mem =>
      Nat.lt_of_lt_of_le (h.known entry mem) (Nat.le_of_not_lt lt)]
    rfl

theorem settled_iff (h : Adequate p l G) :
    p.trace.Settled ↔ ∀ x ∈ l, x.place.death.isOver = true := by
  constructor
  · intro settled x mem
    obtain ⟨i, hi⟩ := List.mem_iff_getElem?.mp mem
    rw [(h.walks i x hi).eq_foldl]
    exact settled i
  · intro ended i
    rcases h.place_cases i with ⟨x, hi, same⟩ | ⟨-, fresh⟩
    · exact same ▸ ended x (List.mem_of_getElem? hi)
    · rw [fresh]
      rfl

/-- While a replica lives, nobody is about to tear it down. -/
theorem settled_of_live (h : Adequate p l G) (reached : Account.Reached permits G)
    (live : p.shared.state ≠ .dead) : p.trace.Settled := by
  rw [← h.shared] at live
  refine h.settled_iff.mpr fun x mem => ?_
  have undying : G.dying = 0 := by
    have dead := reached.mortal.dead.mpr
    by_contra dying
    exact live (dead (.inl (Nat.pos_of_ne_zero dying)))
  have still : x.place.death.isDying ≠ true := by
    rw [← h.accounts.dying, List.countP_eq_zero] at undying
    exact undying x mem
  have untorn : x.place.death.teardown = .none := by
    obtain ⟨i, hi⟩ := List.mem_iff_getElem?.mp mem
    have torn := h.accounts.teardown.idle_or_eq hi
    simpa [reached.mortal.teardown_of_live live] using torn
  cases death : x.place.death <;> simp_all [Death.isDying, Death.teardown, Death.isOver]

theorem installed (h : Adequate p l G) : p.trace.installed = G.acts.filterMap Act.installs? := by
  rw [h.acts, List.filterMap_map]
  rfl

/-- A task that is over has done with its death. -/
theorem isOver_death (h : Adequate p l G) {i : Nat}
    (ended : ∀ entry ∈ p.tasks[i]?, entry.2.isOver = true) :
    (p.trace.place i).death.isOver = true := by
  rcases h.place_cases i with ⟨x, hi, same⟩ | ⟨-, fresh⟩
  · have finished : x.task.isOver = true := ended (x.operation, x.task) (by simp [h.tasks, hi])
    obtain ⟨outcome, -, rest, -⟩ := h.ends_of_isOver (List.mem_of_getElem? hi) finished
    exact same ▸ rest.death
  · rw [fresh]
    rfl

end Adequate

/-! ## Before a replica may stand for election -/

/-- A replica that has never been granted `storagePrepared` has not led. -/
theorem Account.Reached.unled {G : Account} {permits : Account → Act → Prop}
    (h : Reached permits G) (ungranted : .storagePrepared ∉ G.acts.filterMap Act.installs?) :
    G.leading = .unbegun ∧
      (G.shared.state.rank ≤ State.preparingStorage.rank ∨ G.shared.state = .dead) := by
  induction h with
  | start => exact ⟨rfl, .inl (by decide)⟩
  | @step G G' e _ _ step ih =>
    simp only [step.acts, filterMap_append_singleton, List.mem_append, not_or] at ungranted
    obtain ⟨unbegun, early⟩ := ih ungranted.1
    simp only [step.leading_eq_unbegun_iff, unbegun, true_and, step.state]
    cases installed : e.installs? with
    | none => simpa using early
    | some t =>
      have other : t ≠ .storagePrepared := by
        rintro rfl
        simp [installed] at ungranted
      rcases Edge.rank_of_between? (step.edge t installed) with rfl | next
      · simp
      · rcases early with early | dead
        · cases t <;> simp_all [State.rank]
        · rw [dead] at next
          have := State.rank_le_dead t
          omega

namespace Pool

variable {rule : Rule} {schedule choices : List Choice} {p q : Pool} {i : Nat}

theorem hasDied_trace (run : Pool.run rule schedule = some p) :
    p.trace.hasDied = true ↔ p.shared.state = .dead := by
  refine run_induction (motive := fun p => p.trace.hasDied = true ↔ p.shared.state = .dead)
    (by simp [Trace.hasDied]) (fun p q choice ih _ step => ?_) run
  rcases step?_cases step with ⟨o, rfl, rfl⟩ | ⟨i, o, task, act, s, task', -, -, -, moves, rfl⟩
  · exact ih
  · have shared := moves.shared
    cases act with
    | none => simpa [put, shared] using ih
    | some e =>
      have state := moves.possible.state_eq_dead_iff
      simp only [put, shared, Option.map_some, Option.getD_some, state, ← ih]
      simp [Trace.hasDied]

/-! ## Who does not move -/

/-- What is kept by every choice that is made is kept by all of them. -/
theorem follow?_induction {motive : Pool → Prop} (follows : p.follow? rule choices = some q)
    (start : motive p)
    (step : ∀ choice ∈ choices, ∀ p q, motive p → p.step? choice = some q → motive q) :
    motive q := by
  induction choices generalizing p with
  | nil =>
    cases follows
    exact start
  | cons choice rest ih =>
    simp only [follow?] at follows
    split at follows
    · obtain ⟨p', moved, follows⟩ := Option.bind_eq_some_iff.mp follows
      exact ih follows (step choice List.mem_cons_self p p' start moved)
        fun c mem => step c (List.mem_cons_of_mem _ mem)
    · cases follows

/-- A task that does not move stays where it is. -/
theorem follow?_still (follows : p.follow? rule choices = some q)
    (still : ∀ choice ∈ choices, mover choice ≠ some i) :
    q.trace.acts i = p.trace.acts i ∧
      ∀ entry, p.tasks[i]? = some entry → q.tasks[i]? = some entry := by
  refine follow?_induction (motive := fun q => q.trace.acts i = p.trace.acts i ∧
    ∀ entry, p.tasks[i]? = some entry → q.tasks[i]? = some entry) follows ⟨rfl, fun _ h => h⟩ ?_
  rintro choice mem p₁ q₁ ⟨acts, task⟩ step
  rcases step?_cases step with ⟨o, rfl, rfl⟩ | ⟨j, o, t, act, s, t', mover, -, -, -, rfl⟩
  · refine ⟨acts, fun entry hi => ?_⟩
    have held := task entry hi
    rw [List.getElem?_append_left (List.getElem?_eq_some_iff.mp held).1, held]
  · have ne : i ≠ j := by
      rintro rfl
      exact still choice mem mover
    refine ⟨?_, fun entry hi => ?_⟩
    · rw [← acts]
      cases act with
      | none => simp [put]
      | some e => exact Trace.acts_append_of_ne ne _ _
    · simpa [put, List.getElem?_set_ne ne.symm] using task entry hi

/-- A replica goes on in the order of its states. -/
theorem follow?_rank_le (follows : p.follow? rule choices = some q) :
    p.shared.state.rank ≤ q.shared.state.rank := by
  refine follow?_induction (motive := fun q => p.shared.state.rank ≤ q.shared.state.rank) follows
    (Nat.le_refl _) fun choice _ p₁ q₁ le step => Nat.le_trans le ?_
  rcases step?_cases step with ⟨o, rfl, rfl⟩ | ⟨j, o, t, act, s, t', -, -, -, moves, rfl⟩
  · exact Nat.le_refl _
  · have shared := moves.shared
    cases act with
    | none => simp [put, shared]
    | some e => simpa [put, shared] using moves.possible.rank_le

end Pool

/-! ## A preparation that goes on alone -/

/-- A crew that never panics. -/
def Crew.Sound (serve : Crew σ) : Prop := ∀ c s, (serve c s).1.isSome = true

theorem Crew.Sound.permits {serve : Crew σ} (sound : serve.Sound) : Rule.calm.Permits serve where
  advance _ _ := rfl
  answer c s _ _ := sound c s

/-- Whether a program only calls, and ends if it is answered. -/
def Program.IsErrand : Program α → Prop
  | done _ => True
  | unwind => False
  | access _ _ => False
  | note _ next => next.IsErrand
  | call _ next => ∀ x, (next (some x)).IsErrand

theorem isErrand_leaveGroup (slot : Option Grant) : (leaveGroup slot).IsErrand := by
  cases slot with
  | none => trivial
  | some grant =>
    intro x
    cases x <;> trivial

theorem isErrand_stopDriver (driver : Option DriverId) : (stopDriver driver).IsErrand := by
  cases driver with
  | none => trivial
  | some driver =>
    intro x
    trivial

theorem isErrand_stopStorage : stopStorage.IsErrand := by
  intro x
  cases x <;> trivial

theorem isErrand_ask (c : Call) : (Program.ask c).IsErrand := fun _ => trivial

namespace Alone

/-- The states that were installed. -/
def installed (w : Alone σ) : List State := w.acts.filterMap Act.installs?

variable {serve : Crew σ} {s : Shared} {crew : σ} {acts : List Act}

/-- An errand changes no variable. -/
theorem ComesTo.errand {ends : Option α → Alone σ → Prop} {p : Program α} (sound : serve.Sound)
    (errand : p.IsErrand)
    (h : ∀ a crew' acts', acts'.filterMap Act.installs? = acts.filterMap Act.installs? →
      ends (some a) ⟨s, crew', acts'⟩) : ComesTo serve ends p ⟨s, crew, acts⟩ := by
  induction p generalizing crew acts with
  | done a => exact ⟨some a, _, rfl, h a crew acts rfl⟩
  | unwind | access => exact errand.elim
  | note entry next ih => exact ih errand h
  | call c next ih =>
    obtain ⟨x, served⟩ := Option.isSome_iff_exists.mp (sound c crew)
    have rest : ComesTo serve ends (next (some x))
        ⟨s, (serve c crew).2, acts ++ [.called c, .answered c (some x)]⟩ := by
      refine ih (some x) (errand x) fun a crew' acts' same => h a crew' acts' ?_
      rw [same]
      simp [Act.installs?]
    obtain ⟨y, w, run, done⟩ := rest
    refine ⟨y, w, ?_, done⟩
    rw [run_call, served]
    exact run

/-- A teardown waits for the driver's lock only. -/
theorem comesTo_tearDown (sound : serve.Sound) (free : s.driverHeld = false) :
    ComesTo serve
      (fun x w => x = some () ∧ w.shared.state = s.state ∧
        w.installed = acts.filterMap Act.installs?)
      tearDown ⟨s, crew, acts⟩ := by
  have claim : Access.claimTeardown.apply s = some (!s.tornDown, { s with tornDown := true }) := rfl
  cases torn : s.tornDown with
  | true =>
    rw [torn] at claim
    refine .touch claim ⟨some (), _, rfl, rfl, rfl, ?_⟩
    simp [installed, Act.installs?]
  | false =>
    rw [torn] at claim
    refine .touch claim (.ensure ?_)
    refine .touch rfl (.bind (.errand sound (isErrand_leaveGroup _) fun _ crew₁ acts₁ same₁ => ?_))
    refine .bind (.withLock free (.touch rfl
      (.errand sound (isErrand_stopDriver _) fun _ crew₂ acts₂ same₂ => ?_)))
    refine .touchLast rfl (.bind
      (.errand sound isErrand_stopStorage fun _ crew₃ acts₃ same₃ => ?_))
    refine .touch rfl ⟨some (), _, rfl, ?_⟩
    refine .errand sound (isErrand_ask _) fun _ crew₄ acts₄ same₄ => ⟨rfl, rfl, ?_⟩
    simp_all [installed, Act.installs?]

theorem comesTo_kill (sound : serve.Sound) (free : s.driverHeld = false) (reason : String) :
    ComesTo serve
      (fun x w => x = some () ∧ w.shared.state = .dead ∧
        w.installed = acts.filterMap Act.installs? ++ [.dead])
      (kill reason) ⟨s, crew, acts⟩ := by
  refine .log (.bind (.touch (apply_install_of_granted s.state.move_dead) (.log ?_)))
  refine .bind (.errand sound (isErrand_ask _) fun _ crew₁ acts₁ same₁ => ?_)
  show ComesTo serve _ (tearDown >>= fun _ => (pure (.ok ()) : Program Outcome)) _
  refine .bind ((comesTo_tearDown (s := { s with state := .dead }) sound free).mono ?_)
  rintro x w ⟨rfl, state, same⟩
  refine ⟨_, w, rfl, some (), w, rfl, rfl, state, ?_⟩
  simp [same, same₁, Act.installs?]

end Alone

/-- What is left of a preparation when the storage has answered. -/
def conclude (answer : Except StorageError Unit) : Program Outcome :=
  match prepareStorage with
  | .call .prepareStorage next => next (some answer)
  | rest => rest

/-- How a preparation ends. -/
def verdict (died : Bool) : Except StorageError Unit → Outcome
  | .ok () => if died then .error .terminated else .ok ()
  | .error e => .error (.storageInitialization e)

/-- A preparation whose storage has answered ends, and if it fails the replica is dead. -/
theorem Alone.comesTo_conclude {serve : Crew σ} {s : Shared} (sound : serve.Sound)
    (free : s.driverHeld = false) (state : s.state = .preparingStorage ∨ s.state = .dead)
    (answer : Except StorageError Unit) (crew : σ) :
    ComesTo serve
      (fun x w => x = some (verdict s.state.isDead answer) ∧
        (verdict s.state.isDead answer = .ok () → w.shared.state = .storagePrepared) ∧
        (verdict s.state.isDead answer ≠ .ok () →
          w.shared.state = .dead ∧ .storagePrepared ∉ w.installed))
      (conclude answer) ⟨s, crew, []⟩ := by
  cases answer with
  | ok =>
    rcases state with alive | dead
    · have granted : s.state.move .storagePrepared =
          .ok ⟨.preparingStorage, .storagePrepared, none⟩ := by
        rw [alive]
        rfl
      refine .bind (.done (.bind (.touch (apply_install_of_granted granted) (.log ?_))))
      refine .bind (.errand sound (isErrand_ask _) fun _ crew₁ acts₁ _ => ?_)
      refine ⟨_, _, rfl, _, _, rfl, ?_⟩
      simp [alive, State.isDead, verdict]
    · have refused : s.state.move .storagePrepared = .error ⟨.dead, .storagePrepared⟩ := by
        rw [dead]
        rfl
      refine .bind (.done (.requestWith_of_refused refused ⟨_, _, rfl, ?_⟩))
      simp [dead, State.isDead, verdict, installed, Act.installs?]
  | error e =>
    refine .bind (.done (.log (.bind ((comesTo_kill sound free _).mono ?_))))
    rintro x w ⟨rfl, dead, installed⟩
    refine ⟨_, _, rfl, ?_⟩
    simp [verdict, dead, installed]

/-! ## A preparation that hosts others -/

/-- Lets a preparation go as far as its storage. -/
def Choice.asksStorage (i : Nat) : List Choice :=
  .begin .prepare :: upTo i 3 (.notice (.installed .preparingStorage)) () ++ [.advance i]

theorem Task.advance?_access {a : Access} {next : a.Answer → Program Outcome} {x : a.Answer}
    {s s' : Shared} (apply : a.apply s = some (x, s')) :
    (running (.access a next)).advance? s = some (some (.accessed a x), s', running (next x)) := by
  simp [advance?, apply]

namespace Pool

variable {rule : Rule} {schedule choices rest : List Choice} {p q : Pool} {i : Nat}
  {operation : Operation} {task : Task} {ends : Pool → Prop}

/-- A task goes on by a step of its own. -/
theorem exists_follow?_advance (hi : p.tasks[i]? = some (operation, task))
    {act : Option Act} {s : Shared} {task' : Task}
    (moves : task.advance? p.shared = some (act, s, task'))
    (h : ∀ p' : Pool, p'.tasks[i]? = some (operation, task') → p'.shared = s →
      ∃ q, p'.follow? Rule.calm rest = some q ∧ ends q) :
    ∃ q, p.follow? Rule.calm (.advance i :: rest) = some q ∧ ends q := by
  rw [follow?_cons rfl (step?_advance hi moves)]
  exact h _ (getElem?_put hi act s task') rfl

/-- A task goes on when it is answered. -/
theorem exists_follow?_answer {c : Call} {next : Option c.Answer → Program Outcome}
    (hi : p.tasks[i]? = some (operation, .calling c next)) {x : c.Answer}
    (h : ∀ p' : Pool, p'.tasks[i]? = some (operation, .running (next (some x))) →
      p'.shared = p.shared → ∃ q, p'.follow? Rule.calm rest = some q ∧ ends q) :
    ∃ q, p.follow? Rule.calm (.answer i c (some x) :: rest) = some q ∧ ends q := by
  rw [follow?_cons rfl (step?_answer hi (some x))]
  exact h _ (getElem?_put hi _ p.shared _) rfl

/-- On an idle replica a preparation goes as far as its storage. -/
theorem asks_storage (idle : p.shared.state = .idle) :
    ∃ q, p.follow? Rule.calm (Choice.asksStorage p.tasks.length) = some q ∧
      q.shared.state = .preparingStorage ∧
      ∃ next, q.tasks[p.tasks.length]? = some (.prepare, .calling .prepareStorage next) ∧
        ∀ answer, next (some answer) = conclude answer := by
  have granted : p.shared.state.move .preparingStorage =
      .ok ⟨.idle, .preparingStorage, some .prepareStorage⟩ := by
    rw [idle]
    rfl
  have begun : (p.tasks ++ [(.prepare, .running prepare)])[p.tasks.length]? =
      some (.prepare, .running prepare) := by simp
  rw [Choice.asksStorage, List.cons_append, follow?_cons rfl rfl]
  -- The move is granted, logged and made known, and then the storage is asked.
  refine exists_follow?_advance begun
    (Task.advance?_access (Alone.apply_install_of_granted granted)) fun p₁ h₁ s₁ => ?_
  refine exists_follow?_advance h₁ rfl fun p₂ h₂ s₂ => ?_
  refine exists_follow?_advance h₂ rfl fun p₃ h₃ s₃ => ?_
  refine exists_follow?_answer h₃ fun p₄ h₄ s₄ => ?_
  refine exists_follow?_advance h₄ rfl fun p₅ h₅ s₅ => ?_
  exact ⟨p₅, rfl, by rw [s₅, s₄, s₃, s₂, s₁], _, h₅, fun answer => Program.bind_done _⟩

/-- Choices that are made while a task waits to be answered. Anybody else may move meanwhile, and
is over at the end; nobody is granted `storagePrepared`. -/
structure Hosts (p : Pool) (i : Nat) (choices : List Choice) (q : Pool) : Prop where
  follows : p.follow? Rule.calm choices = some q
  waits : ∀ choice ∈ choices, mover choice ≠ some i
  ended : ∀ choice ∈ choices, ∀ j, mover choice = some j →
    ∀ entry ∈ q.tasks[j]?, entry.2.isOver = true
  ungranted : .storagePrepared ∉ q.trace.installed

/-- Who has only done what it had done before, or is over, has done with its death. -/
theorem settled_of_over (run : Pool.run Rule.calm schedule = some p) {t : Trace}
    (settled : t.Settled) (h : ∀ j, p.trace.acts j = t.acts j ∨
      ∀ entry ∈ p.tasks[j]?, entry.2.isOver = true) : p.trace.Settled := by
  obtain ⟨l, G, adequate, reached⟩ := Pool.accounted run
  intro j
  rcases h j with same | ended
  · rw [Trace.place, same]
    exact settled j
  · exact adequate.isOver_death ended

theorem Hosts.settled (hosts : p.Hosts i choices q) (run : Pool.run Rule.calm schedule = some q)
    (settled : p.trace.Settled) : q.trace.Settled := by
  refine settled_of_over run settled fun j => ?_
  by_cases moved : ∃ choice ∈ choices, mover choice = some j
  · obtain ⟨choice, mem, mover⟩ := moved
    exact .inr (hosts.ended choice mem j mover)
  · exact .inl (follow?_still hosts.follows fun choice mem mover => moved ⟨choice, mem, mover⟩).1

/-- A replica was torn down once and whole before it ever led: one task has left what it took from
the slot, found no driver, stopped the storage and signalled shutdown. -/
structure TornDownUnled (p : Pool) : Prop where
  dead : p.shared.state = .dead
  once : ∃ taken j, p.trace.taken = [taken] ∧ p.trace.found = [none] ∧
    p.trace.calls.filter Call.isClosing = [.stopStorage, .shutdown] ∧
    farewell taken none <:+: p.trace.callsBy j
  undriven : ∀ id, .createDriver id ∉ p.trace.calls

theorem tornDownUnled (run : Pool.run Rule.calm schedule = some p) (settled : p.trace.Settled)
    (dead : p.shared.state = .dead) (ungranted : .storagePrepared ∉ p.trace.installed) :
    p.TornDownUnled := by
  obtain ⟨l, G, adequate, reached⟩ := Pool.accounted run
  obtain ⟨unbegun, -⟩ := reached.unled (adequate.installed ▸ ungranted)
  obtain ⟨dying, parted⟩ := adequate.parted (adequate.settled_iff.mp settled)
  obtain ⟨taken, found, complete⟩ := reached.complete dying parted (adequate.shared ▸ dead)
  have undriven : found = none := by
    cases found with
    | none => rfl
    | some driver =>
      have published := reached.meets.driver driver (by rw [complete]; rfl)
      rw [unbegun] at published
      cases published
  subst undriven
  obtain ⟨j, x, hj, eq⟩ := adequate.accounts.teardown.exists_of_ne (by rw [complete]; simp)
  have calls := (adequate.walks j x hj).calls.1
  rw [Death.of_teardown (eq.trans complete), ← Trace.callsBy_eq] at calls
  refine ⟨dead, ⟨taken, j, ?_, ?_, ?_, calls⟩, fun id mem => ?_⟩
  · rw [adequate.taken, reached.taken, complete]
    rfl
  · rw [adequate.found, reached.found, complete]
    rfl
  · rw [adequate.calls, reached.closing, complete]
    rfl
  · obtain ⟨k, before, after, split⟩ := Trace.exists_split_of_mem_calls mem
    have about : Act.called (.createDriver id) ∈ p.trace.about Call.createsDriver := by
      simp [Trace.about, split, Act.isAbout, Call.createsDriver]
    rw [adequate.about, reached.creation, unbegun] at about
    cases about

/-- A replica that a preparation has brought to its storage is still there or has died, and the
driver's lock is free. -/
theorem Hosts.free (hosts : p.Hosts i choices q) (run : Pool.run Rule.calm schedule = some q)
    (preparing : p.shared.state = .preparingStorage) (settled : q.trace.Settled) :
    q.shared.driverHeld = false ∧
      (q.shared.state = .preparingStorage ∨ q.shared.state = .dead) := by
  obtain ⟨l, G, adequate, reached⟩ := Pool.accounted run
  obtain ⟨unbegun, early⟩ := reached.unled (adequate.installed ▸ hosts.ungranted)
  have parted := (adequate.parted (adequate.settled_iff.mp settled)).2
  have rank := follow?_rank_le hosts.follows
  rw [← adequate.shared] at rank ⊢
  constructor
  · -- Only who leads or tears down has the lock, and nobody does either.
    rw [reached.gate.held, unbegun]
    cases teardown : G.teardown with
    | dying | tearing => simp [teardown, Death.isOver] at parted
    | none | complete => rfl
  · rcases early with early | dead
    · rw [preparing] at rank
      exact .inl (State.eq_of_rank_eq (Nat.le_antisymm early rank))
    · exact .inr dead

/-! ## When the storage answers -/

/-- The answer is all that an answer puts down. -/
theorem exists_answered {c : Call} {next : Option c.Answer → Program Outcome}
    (hi : p.tasks[i]? = some (operation, .calling c next)) (x : Option c.Answer) :
    ∃ q, p.step? (.answer i c x) = some q ∧ q.tasks[i]? = some (operation, .running (next x)) ∧
      q.shared = p.shared ∧ q.trace = p.trace ++ [(i, .answered c x)] :=
  ⟨_, step?_answer hi x, getElem?_put hi _ _ _, rfl, rfl⟩

section Finish

variable {x : Option Outcome} {s : Shared} {acts : List Act}

theorem acts_finish_of_ne {j : Nat} (ne : j ≠ i) :
    (p.finish i operation x s acts).trace.acts j = p.trace.acts j := by
  rw [finish, Trace.acts_append, Trace.acts_of_others ne, List.append_nil]

theorem installed_finish : (p.finish i operation x s acts).trace.installed =
    p.trace.installed ++ acts.filterMap Act.installs? := by
  simp [finish, Trace.installed, List.filterMap_map]

theorem isOver_finish :
    ∀ entry ∈ (p.finish i operation x s acts).tasks[i]?, entry.2.isOver = true := by
  intro entry mem
  obtain ⟨lt, eq⟩ := List.getElem?_eq_some_iff.mp (Option.mem_def.mp mem)
  simp only [finish, List.getElem_set_self] at eq
  rw [← eq]
  exact Task.isOver_ended x

end Finish

/-- When its storage answers, a preparation that goes on alone ends and tells the verdict, on a
replica that is ready or was torn down. -/
def Reports (q : Pool) (i : Nat) (answer : Except StorageError Unit) : Prop :=
  ∃ q' rest, q.step? (.answer i .prepareStorage (some answer)) = some q' ∧
    q'.tasks[i]? = some (.prepare, .running rest) ∧
    ∀ {σ : Type} (serve : Crew σ) (crew : σ), serve.Sound →
      ∃ outcome w, outcome = verdict q.trace.hasDied answer ∧
        Alone.run serve rest ⟨q'.shared, crew, []⟩ = some (some outcome, w) ∧
        (outcome = .ok () → w.shared.state = .storagePrepared) ∧
        (outcome ≠ .ok () →
          (q'.finish i .prepare (some outcome) w.shared w.acts).TornDownUnled)

theorem Hosts.reports (hosts : p.Hosts i choices q) (run : Pool.run Rule.calm schedule = some p)
    (preparing : p.shared.state = .preparingStorage)
    {next : Option (Except StorageError Unit) → Program Outcome}
    (waits : p.tasks[i]? = some (.prepare, .calling .prepareStorage next))
    (concludes : ∀ answer, next (some answer) = conclude answer)
    (answer : Except StorageError Unit) : q.Reports i answer := by
  have run' : Pool.run Rule.calm (schedule ++ choices) = some q :=
    (follow?_append run).trans hosts.follows
  obtain ⟨l, G, adequate, reached⟩ := Pool.accounted run
  have settled := hosts.settled run' (adequate.settled_of_live reached (by simp [preparing]))
  obtain ⟨free, state⟩ := hosts.free run' preparing settled
  have died : q.shared.state.isDead = q.trace.hasDied := by
    rw [Bool.eq_iff_iff, hasDied_trace run', State.isDead_iff]
  have waiting := (follow?_still hosts.follows hosts.waits).2 _ waits
  obtain ⟨q', answered, resumed, shared, trace⟩ := exists_answered waiting (some answer)
  refine ⟨q', _, answered, resumed, fun serve crew sound => ?_⟩
  rw [← shared] at free state died
  obtain ⟨x, w, alone, ended, ready, failed⟩ :=
    Alone.comesTo_conclude sound free state answer crew
  rw [died] at ended ready failed
  rw [← concludes] at alone
  subst ended
  refine ⟨_, w, rfl, alone, ready, fun failure => ?_⟩
  obtain ⟨dead, ungranted⟩ := failed failure
  -- What the task has done alone, it could have done in the pool.
  obtain ⟨after, acts, eq, follows⟩ := follow?_of_run sound.permits alone rfl resumed
  obtain rfl : w.acts = acts := eq
  have finished := (follow?_append (run_append run' rfl answered)).trans follows
  refine tornDownUnled finished (settled_of_over finished settled fun j => ?_) dead ?_
  · by_cases own : j = i
    · subst own
      exact .inr isOver_finish
    · refine .inl ?_
      rw [acts_finish_of_ne own, trace]
      exact Trace.acts_append_of_ne own _ _
  · rw [installed_finish, trace, Trace.installed_append_self]
    simp only [List.mem_append, not_or]
    exact ⟨⟨hosts.ungranted, by simp [Act.installs?]⟩, ungranted⟩

end Pool

/-- A preparation reports what happened. On an idle replica it asks for the storage to be made
ready. Whatever is done from inside the storage, and whatever the storage answers, it ends well if
the storage is ready and the replica lives, and otherwise with the error of the storage or, if
there is none, terminated. If it fails the replica was torn down once, and has never had a driver.
Anywhere else a preparation is refused, asks nobody and changes nothing. -/
theorem prepare_reports {before : List Choice} {p : Pool}
    (run : Pool.run Rule.calm before = some p) :
    (p.shared.state = .idle →
      ∃ p', p.follow? Rule.calm (Choice.asksStorage p.tasks.length) = some p' ∧
        ∀ inside q answer, p'.Hosts p.tasks.length inside q →
          q.Reports p.tasks.length answer) ∧
    ∀ {σ : Type} (serve : Crew σ) (w : Alone σ), w.shared.state ≠ .idle →
      Alone.run serve prepare w =
        some (some (.error (.illegalMove ⟨w.shared.state, .preparingStorage⟩)),
          { w with
            acts := w.acts ++ [.accessed (.install .preparingStorage)
              (.error ⟨w.shared.state, .preparingStorage⟩)] }) := by
  constructor
  · intro idle
    obtain ⟨p', asks, preparing, next, waits, concludes⟩ := Pool.asks_storage idle
    refine ⟨p', asks, fun inside q answer hosts => ?_⟩
    exact hosts.reports ((Pool.follow?_append run).trans asks) preparing waits concludes answer
  · intro σ serve w other
    have refused : w.shared.state.move .preparingStorage =
        .error ⟨w.shared.state, .preparingStorage⟩ := by
      cases state : w.shared.state <;> first | rfl | exact (other state).elim
    exact Alone.run_access (Alone.apply_install_of_refused refused)

namespace Choice

/-- Leadership is lost before it was held, and the replica is torn down. -/
def diesUnled (i : Nat) : List Choice :=
  [.begin (.stepDown none) :: upTo i 5 (.notice (.installed .dead)) (),
    upTo i 8 .stopStorage (.ok ()), upTo i 3 .shutdown ()].flatten

end Choice

/-- A replica dies and is torn down from inside its storage, which is then ready; the preparation
is terminated, and another one is refused. -/
theorem prepare_reports_of_killed :
    ∃ p q, Pool.run Rule.calm (Choice.asksStorage 0) = some p ∧
      p.Hosts 0 (Choice.diesUnled 1) q ∧ q.trace.hasDied = true ∧
      ∃ (q' : Pool) (rest : Program Outcome) (w : Alone Unit),
        q.step? (.answer 0 .prepareStorage (some (.ok ()))) = some q' ∧
        Alone.run Clocked.willing rest ⟨q'.shared, (), []⟩ = some (some (.error .terminated), w) ∧
        (q'.finish 0 .prepare (some (.error .terminated)) w.shared w.acts).TornDownUnled ∧
        ∃ w', Alone.run Clocked.willing prepare w =
          some (some (.error (.illegalMove ⟨.dead, .preparingStorage⟩)), w') := by
  have fresh : Pool.run Rule.calm [] = some {} := rfl
  obtain ⟨hosts, refused⟩ := prepare_reports fresh
  obtain ⟨p, asks, hosts⟩ := hosts rfl
  have seen : ∃ q, q ∈ Pool.run Rule.calm (Choice.asksStorage 0 ++ Choice.diesUnled 1) ∧
      (∀ entry ∈ q.tasks[1]?, entry.2.isOver = true) ∧ .storagePrepared ∉ q.trace.installed ∧
      q.trace.hasDied = true := by
    decide +kernel
  obtain ⟨q, run, ended, ungranted, died⟩ := seen
  have moves : ∀ choice ∈ Choice.diesUnled 1, Pool.mover choice ∈ [none, some 1] := by decide
  have hosted : p.Hosts 0 (Choice.diesUnled 1) q :=
    { follows := (Pool.follow?_append asks).symm.trans run
      waits := fun choice mem mover => by
        have := moves choice mem
        simp [mover] at this
      ended := fun choice mem j mover => by
        have := moves choice mem
        obtain rfl : j = 1 := by simpa [mover] using this
        exact ended
      ungranted }
  obtain ⟨q', rest, answered, -, ends⟩ := hosts _ q (.ok ()) hosted
  obtain ⟨outcome, w, eq, alone, -, torn⟩ :=
    ends Clocked.willing () fun c _ => by cases c <;> rfl
  rw [died] at eq
  subst eq
  have torn := torn (by simp [verdict])
  refine ⟨p, q, asks, hosted, died, q', rest, w, answered, alone, torn, ?_⟩
  have dead : w.shared.state = .dead := torn.dead
  have later := refused Clocked.willing w (by simp [dead])
  rw [dead] at later
  exact ⟨_, later⟩

end Tenure.Lifecycle
