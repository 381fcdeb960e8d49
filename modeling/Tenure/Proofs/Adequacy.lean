import Tenure.Proofs.Actor

/-!
# Runs are accounted for

Beside every task of a pool there is a place that its program follows, and all places together
are in step with one account. A choice of the schedule that lets a task act is then one step of
the account. So what holds of every account that can be reached holds after every run.
-/
namespace Tenure.Lifecycle

namespace Trace

/-- What one task did. -/
def acts (i : Nat) (t : Trace) : List Act :=
  t.filterMap fun entry => if entry.1 = i then some entry.2 else none

theorem acts_append_self (i : Nat) (t : Trace) (e : Act) :
    (t ++ [(i, e)]).acts i = t.acts i ++ [e] := by
  simp [acts]

theorem acts_append_of_ne {i j : Nat} (ne : j ≠ i) (t : Trace) (e : Act) :
    (t ++ [(i, e)]).acts j = t.acts j := by
  simp [acts, Ne.symm ne]

theorem acts_eq_nil {i : Nat} {t : Trace} (h : ∀ entry ∈ t, entry.1 < i) : t.acts i = [] := by
  rw [acts, List.filterMap_eq_nil_iff]
  intro entry mem
  simp [Nat.ne_of_lt (h entry mem)]

section Each

variable {α : Type} {P : List Act → α → Prop} {l : List α} {t t' : Trace}

/-- A task that has just begun has done nothing. -/
theorem each_append (h : ∀ (i : Nat) (x : α), l[i]? = some x → P (t.acts i) x)
    (known : ∀ entry ∈ t, entry.1 < l.length) {x' : α} (start : P [] x') (i : Nat) (x : α)
    (hi : (l ++ [x'])[i]? = some x) : P (t.acts i) x := by
  rcases Nat.lt_trichotomy i l.length with lt | rfl | gt
  · exact h i x (by rwa [List.getElem?_append_left lt] at hi)
  · obtain rfl : x' = x := by simpa using hi
    rwa [acts_eq_nil known]
  · simp [List.getElem?_eq_none (show (l ++ [x']).length ≤ i by simp; omega)] at hi

/-- What one task does is nothing that another one did. -/
theorem each_set {i : Nat} (h : ∀ (i : Nat) (x : α), l[i]? = some x → P (t.acts i) x) {x' : α}
    (own : P (t'.acts i) x') (others : ∀ j, j ≠ i → t'.acts j = t.acts j) (j : Nat) (x : α)
    (hj : (l.set i x')[j]? = some x) : P (t'.acts j) x := by
  by_cases ij : i = j
  · subst ij
    have lt : i < l.length := by simpa using (List.getElem?_eq_some_iff.mp hj).1
    obtain rfl : x' = x := by simpa [lt] using hj
    exact own
  · rw [others j (Ne.symm ij)]
    exact h j x (by rwa [List.getElem?_set_ne ij] at hj)

end Each

end Trace

/-- Every task of a pool is at a place that it fits and that its acts lead to, and the places are
in step with an account. -/
structure Adequate (p : Pool) (l : List Actor) (G : Account) : Prop where
  tasks : p.tasks = l.map fun x => (x.operation, x.task)
  fits : ∀ x ∈ l, x.Fits
  walks : ∀ (i : Nat) (x : Actor), l[i]? = some x → Walk (p.trace.acts i) x.place
  known : ∀ entry ∈ p.trace, entry.1 < l.length
  shared : G.shared = p.shared
  acts : G.acts = p.trace.map Prod.snd
  accounts : Accounts l G

namespace Adequate

variable {p : Pool} {l : List Actor} {G : Account} {permits : Account → Act → Prop} {i : Nat}

theorem start : Adequate {} [] {} := by
  constructor <;> first | exact .start | simp

theorem begin (h : Adequate p l G) (operation : Operation) :
    Adequate { p with tasks := p.tasks ++ [(operation, .running operation.program)] }
      (l ++ [⟨operation, .running operation.program, {}⟩]) G where
  tasks := by simp [h.tasks]
  fits x mem := by
    rcases List.mem_append.mp mem with old | new
    · exact h.fits x old
    · rw [List.mem_singleton.mp new]
      exact operation.follows
  walks := Trace.each_append (P := fun acts (x : Actor) => Walk acts x.place) h.walks h.known .start
  known entry mem := by
    have := h.known entry mem
    simp
    omega
  shared := h.shared
  acts := h.acts
  accounts := h.accounts.begin rfl

theorem fits_set (h : Adequate p l G) {x' : Actor} (fits : x'.Fits) :
    ∀ x ∈ l.set i x', x.Fits := by
  intro x mem
  rcases List.mem_or_eq_of_mem_set mem with old | rfl
  · exact h.fits x old
  · exact fits

theorem move {operation : Operation} {task task' : Task} {act : Option Act} {shared : Shared}
    (h : Adequate p l G) (reached : Account.Reached permits G)
    (hi : p.tasks[i]? = some (operation, task)) (calm : ∀ c, act ≠ some (.answered c none))
    (moves : Pool.Moves p.shared task act shared task')
    (permitted : ∀ (e : Act) (x : Actor), act = some e → l[i]? = some x → x.place.Allows e →
      permits G e) :
    ∃ l' G', Adequate (p.put i operation act shared task') l' G' ∧
      Account.Reached permits G' := by
  rw [h.tasks, List.getElem?_map, Option.map_eq_some_iff] at hi
  obtain ⟨⟨o, t, r⟩, hi, eq⟩ := hi
  cases eq
  have lt : i < l.length := (List.getElem?_eq_some_iff.mp hi).1
  have walk := h.walks i _ hi
  have next := (h.fits _ (List.mem_of_getElem? hi)).moves walk.settled calm moves
  cases act with
  | none =>
    obtain ⟨rfl, fits⟩ := next
    refine ⟨l.set i ⟨o, task', r⟩, G, ?_, reached⟩
    exact
      { tasks := by simp [Pool.put, h.tasks]
        fits := h.fits_set fits
        walks := Trace.each_set (P := fun acts (x : Actor) => Walk acts x.place) h.walks
          (by simpa [Pool.put] using walk) fun j ne => by simp [Pool.put]
        known := by simpa [Pool.put] using h.known
        shared := h.shared
        acts := by simpa [Pool.put] using h.acts
        accounts := h.accounts.same hi rfl }
  | some e =>
    obtain ⟨allowed, possible, rfl, fits⟩ := next
    rw [← h.shared] at possible
    obtain ⟨G', step, accounts⟩ :=
      h.accounts.act reached hi ⟨o, task', r.after e⟩ allowed possible rfl
    refine ⟨l.set i ⟨o, task', r.after e⟩, G', ?_,
      .step reached (permitted e _ rfl hi allowed) step⟩
    exact
      { tasks := by simp [Pool.put, h.tasks]
        fits := h.fits_set fits
        walks := Trace.each_set (P := fun acts (x : Actor) => Walk acts x.place) h.walks
          (by simpa [Pool.put, Trace.acts_append_self] using walk.step allowed)
          fun j ne => Trace.acts_append_of_ne ne _ _
        known := by
          intro entry mem
          rcases List.mem_append.mp mem with old | new
          · simpa using h.known entry old
          · rw [List.mem_singleton.mp new]
            simpa using lt
        shared := by rw [step.shared, h.shared]; rfl
        acts := by rw [step.acts, h.acts]; simp [Pool.put]
        accounts }

/-- Every choice that begins an operation or lets a task act is a step of the account. -/
theorem run {rule : Rule} (calm : ∀ p choice, rule p choice = true → Rule.calm p choice = true)
    (permitted : ∀ (p : Pool) (l : List Actor) (G : Account) (choice : Choice) (i : Nat) (e : Act)
      (x : Actor), Adequate p l G → rule p choice = true → Pool.mover choice = some i →
        l[i]? = some x → x.place.Allows e → permits G e)
    {schedule : List Choice} (h : Pool.run rule schedule = some p) :
    ∃ l G, Adequate p l G ∧ Account.Reached permits G := by
  refine Pool.run_induction (motive := fun p => ∃ l G, Adequate p l G ∧ Account.Reached permits G)
    ⟨[], {}, .start, .start⟩ (fun p q choice ih rules step => ?_) h
  obtain ⟨l, G, adequate, reached⟩ := ih
  rcases Pool.step?_cases step with
    ⟨operation, rfl, rfl⟩ | ⟨i, operation, task, act, shared, task', mover, answer, hi, moves, rfl⟩
  · exact ⟨_, G, adequate.begin operation, reached⟩
  · refine adequate.move reached hi (fun c panic => ?_) moves fun e x _ hx allowed =>
      permitted p l G choice i e x adequate rules mover hx allowed
    have calm := calm p choice rules
    rw [answer c none panic] at calm
    cases calm

end Adequate

/-- A run without panics is accounted for. -/
theorem Pool.accounted {schedule : List Choice} {p : Pool}
    (h : Pool.run Rule.calm schedule = some p) :
    ∃ l G, Adequate p l G ∧ Account.Reached Account.freely G :=
  Adequate.run (fun _ _ calm => calm) (fun _ _ _ _ _ _ _ _ _ _ _ _ => trivial) h

theorem Hold.isPending_current (h : Hold) : h.current.isPending = h.isPending := by
  cases h <;> rfl

theorem Place.settled_of_readSlot {r : Place} {held : Option Grant}
    (allowed : r.Allows (.accessed .readSlot held)) : r.hold.isPending = false := by
  cases active : r.death.isActive with
  | false => exact ((Place.allows_of_inactive active).mp allowed).1
  | true =>
    rw [Place.allows_of_active active] at allowed
    cases death : r.death with
    | none | complete => rw [death] at active; cases active
    | dying => rw [death] at allowed; exact allowed.elim
    | tearing stage => rw [death] at allowed; cases stage <;> exact allowed.elim

/-- While a task moves, all others are over or inside a call. -/
theorem Rule.isAside_of_reentrant {p : Pool} {choice : Choice} {i j : Nat} {o : Operation}
    {task : Task} (h : Rule.reentrant p choice = true) (mover : Pool.mover choice = some i)
    (ne : j ≠ i) (hj : p.tasks[j]? = some (o, task)) : task.isAside = true := by
  have others : (p.tasks.eraseIdx i).all fun entry => entry.2.isAside := by
    have := (Bool.and_eq_true_iff.mp h).2
    cases choice with
    | begin => cases mover
    | advance | answer => cases mover; exact this
  rw [List.all_eq_true] at others
  exact others _ (List.mem_eraseIdx_iff_getElem?.mpr ⟨j, ne, hj⟩)

/-- Where operations only begin inside calls, no grant is pending while the slot is read. -/
theorem Adequate.settled_of_readSlot {p : Pool} {l : List Actor} {G : Account} {choice : Choice}
    {i : Nat} {x : Actor} {held : Option Grant} (h : Adequate p l G)
    (rule : Rule.reentrant p choice = true) (mover : Pool.mover choice = some i)
    (hi : l[i]? = some x) (allowed : x.place.Allows (.accessed .readSlot held)) :
    G.hold.isPending = false := Classical.byContradiction fun pending => by
  have own : G.hold ≠ .none := fun none => pending (by rw [none]; rfl)
  obtain ⟨j, y, hj, eq⟩ := h.accounts.hold.exists_of_ne own
  rw [← eq, Hold.isPending_current] at pending
  by_cases ji : j = i
  · subst ji
    obtain rfl : x = y := Option.some.inj (hi.symm.trans hj)
    exact pending (Place.settled_of_readSlot allowed)
  · refine pending ((h.fits y (List.mem_of_getElem? hj)).settled_of_isAside ?_)
    have entry : p.tasks[j]? = some (y.operation, y.task) := by
      rw [h.tasks, List.getElem?_map, hj]
      rfl
    exact Rule.isAside_of_reentrant rule mover ji entry

/-- In a run where operations only begin inside calls, the slot is read in turn. -/
theorem Pool.accounted_in_turn {schedule : List Choice} {p : Pool}
    (h : Pool.run Rule.reentrant schedule = some p) :
    ∃ l G, Adequate p l G ∧ Account.Reached Account.inTurn G := by
  refine Adequate.run (fun p choice rule => (Bool.and_eq_true_iff.mp rule).1)
    (fun p l G choice i e x adequate rule mover hi allowed => ?_) h
  rintro held rfl
  exact adequate.settled_of_readSlot rule mover hi allowed

/-! ## When every operation is over -/

/-- Nothing is under way. -/
structure Account.AtRest (G : Account) : Prop where
  hold : G.hold = .none
  preparing : G.preparing.isOver = true
  leading : G.leading.isOver = true
  confirming : G.confirming.isOver = true
  dying : G.dying = 0
  teardown : G.teardown.isOver = true

/-- A dead replica that nobody tears down or is about to has been torn down. -/
theorem Account.Reached.complete {G : Account} {permits : Account → Act → Prop}
    (reached : Reached permits G) (dying : G.dying = 0) (ended : G.teardown.isOver = true)
    (dead : G.shared.state = .dead) : ∃ taken found, G.teardown = .complete taken found := by
  rcases reached.mortal.dead.mp dead with left | begun
  · rw [dying] at left
    cases left
  · cases death : G.teardown with
    | none => exact (begun death).elim
    | complete taken found => exact ⟨taken, found, rfl⟩
    | dying | tearing => rw [death] at ended; cases ended

/-- A dead replica at rest has been torn down. -/
theorem Account.AtRest.complete {G : Account} {permits : Account → Act → Prop} (rest : G.AtRest)
    (reached : Reached permits G) (dead : G.shared.state = .dead) :
    ∃ taken found, G.teardown = .complete taken found :=
  reached.complete rest.dying rest.teardown dead

namespace Adequate

variable {p : Pool} {l : List Actor} {G : Account} {i : Nat} {x : Actor}

theorem ends_of_isOver (h : Adequate p l G) (mem : x ∈ l) (ended : x.task.isOver = true) :
    ∃ outcome, x.task = .running (.done outcome) ∧ x.operation.Ends outcome x.place := by
  have fits := h.fits x mem
  obtain ⟨o, task, r⟩ := x
  cases task with
  | calling => cases ended
  | running rest =>
    cases rest with
    | done outcome => exact ⟨outcome, rfl, fits⟩
    | unwind => exact fits.elim
    | access | note | call => cases ended

theorem ends (h : Adequate p l G) (quiet : p.isQuiet = true) (mem : x ∈ l) :
    ∃ outcome, x.task = .running (.done outcome) ∧ x.operation.Ends outcome x.place := by
  refine h.ends_of_isOver mem ?_
  rw [Pool.isQuiet, h.tasks, List.all_map, List.all_eq_true] at quiet
  exact quiet x mem

/-- Where every task has done with its death, so has the account. -/
theorem parted (h : Adequate p l G) (ended : ∀ x ∈ l, x.place.death.isOver = true) :
    G.dying = 0 ∧ G.teardown.isOver = true := by
  constructor
  · rw [← h.accounts.dying, List.countP_eq_zero]
    intro x mem
    have finished := ended x mem
    cases death : x.place.death <;> simp_all [Death.isOver, Death.isDying]
  · refine h.accounts.teardown.of_forall (P := (·.isOver = true)) rfl fun x mem => ?_
    have finished := ended x mem
    cases death : x.place.death <;> simp_all [Death.isOver, Death.teardown]

theorem atRest (h : Adequate p l G) (quiet : p.isQuiet = true) : G.AtRest := by
  have rest (x : Actor) (mem : x ∈ l) : x.place.AtRest := by
    obtain ⟨outcome, -, rest, -⟩ := h.ends quiet mem
    exact rest
  constructor
  · refine h.accounts.hold.of_forall (P := (· = .none)) rfl fun x mem => ?_
    obtain none | ⟨grant, accepted, closed⟩ := (rest x mem).hold
    · rw [none]
      rfl
    · rw [closed]
      rfl
  · exact h.accounts.preparing.of_forall (P := (·.isOver = true)) rfl
      fun x mem => (rest x mem).preparing
  · exact h.accounts.leading.of_forall (P := (·.isOver = true)) rfl
      fun x mem => (rest x mem).leading
  · exact h.accounts.confirming.of_forall (P := (·.isOver = true)) rfl
      fun x mem => (rest x mem).confirming
  · exact (h.parted fun x mem => (rest x mem).death).1
  · exact (h.parted fun x mem => (rest x mem).death).2

end Adequate
end Tenure.Lifecycle
