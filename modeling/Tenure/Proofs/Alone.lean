import Tenure.Proofs.Unwinding

/-!
# Operations that run alone

An operation that nobody interrupts is a function of the variables and of how the collaborators
answer. It is also one schedule of a pool among others, so what holds after every run holds after
it. An operation waits for a lock for ever only if the lock was held before.
-/
namespace Tenure.Lifecycle

variable {σ α β : Type}

theorem Program.bind_bind {γ : Type} (p : Program α) (f : α → Program β) (g : β → Program γ) :
    p >>= f >>= g = p >>= fun a => f a >>= g :=
  Program.bind_assoc p f g

/-- How the collaborators answer, in a state of their own. There is no answer if one panics. -/
abbrev Crew (σ : Type) := (c : Call) → σ → Option c.Answer × σ

/-- A crew panics only where it may. -/
def Crew.Careful (serve : Crew σ) : Prop :=
  ∀ c s, (serve c s).1.isSome = true ∨ c.mayPanic = true

/-- The state that an act requests, and what comes of it. -/
def Act.request? : Act → Option (State × Except IllegalMove Edge)
  | accessed (.install target) x => some (target, x)
  | _ => none

structure Alone (σ : Type) where
  shared : Shared
  crew : σ
  acts : List Act := []

/-- Somebody may have any lock. -/
theorem Access.gives_lock (l : Lock) : (Access.lock l).Gives () :=
  ⟨{}, Shared.setHeld {} true l, by cases l <;> rfl⟩

namespace Alone

def access (a : Access) : StateT (Alone σ) Option a.Answer := fun w =>
  (a.apply w.shared).map fun (x, shared) =>
    (x, { w with shared, acts := w.acts ++ [.accessed a x] })

def call (serve : Crew σ) (c : Call) : StateT (Alone σ) Option (Option c.Answer) := fun w =>
  let (x, crew) := serve c w.crew
  some (x, { w with crew, acts := w.acts ++ [.called c, .answered c x] })

def handler (serve : Crew σ) : Program.Handler (StateT (Alone σ) Option) where
  access := access
  note _ := pure ()
  call := call serve

/-- Runs a program to its end; `none` if it waits for a lock, which nobody gives back. -/
def run (serve : Crew σ) (p : Program α) (w : Alone σ) : Option (Option α × Alone σ) :=
  p.run (handler serve) w

/-- The states that were requested, and what came of each request. -/
def requests (w : Alone σ) : List (State × Except IllegalMove Edge) :=
  w.acts.filterMap Act.request?

def calls (w : Alone σ) : List Call := w.acts.filterMap Act.call?

/-! ## Steps -/

variable {serve : Crew σ} {w w' : Alone σ}

@[simp] theorem run_done (a : α) : run serve (.done a) w = some (some a, w) := rfl

@[simp] theorem run_unwind : run serve (.unwind : Program α) w = some (none, w) := rfl

@[simp] theorem run_note (entry : Log.Entry) (next : Program α) :
    run serve (.note entry next) w = run serve next w := rfl

theorem run_access {a : Access} {next : a.Answer → Program α} {x : a.Answer} {s : Shared}
    (apply : a.apply w.shared = some (x, s)) :
    run serve (.access a next) w =
      run serve (next x) { w with shared := s, acts := w.acts ++ [.accessed a x] } := by
  simp only [run, Program.run, handler, access, bind, StateT.bind, apply, Option.map_some]
  rfl

theorem run_access_eq_none {a : Access} {next : a.Answer → Program α}
    (apply : a.apply w.shared = none) : run serve (.access a next) w = none := by
  simp only [run, Program.run, handler, access, bind, StateT.bind, apply, Option.map_none]
  rfl

theorem run_call (c : Call) (next : Option c.Answer → Program α) :
    run serve (.call c next) w =
      run serve (next (serve c w.crew).1)
        { w with
          crew := (serve c w.crew).2
          acts := w.acts ++ [.called c, .answered c (serve c w.crew).1] } := rfl

/-- A panic skips what was to follow. -/
theorem run_bind (p : Program α) (f : α → Program β) :
    run serve (p >>= f) w = (run serve p w).bind fun (x, w) =>
      match x with
      | some a => run serve (f a) w
      | none => some (none, w) := by
  rw [Program.bind_eq]
  induction p generalizing w with
  | done | unwind => rfl
  | access a next ih =>
    rw [Program.bind]
    cases apply : a.apply w.shared with
    | none => rw [run_access_eq_none apply, run_access_eq_none apply]; rfl
    | some result =>
      rw [run_access apply, run_access apply]
      exact ih _
  | note entry next ih => exact ih
  | call c next ih =>
    rw [Program.bind, run_call, run_call]
    exact ih _

/-- What is put aside for a panic is not skipped. -/
theorem run_ensure (p : Program α) (last : Program Unit) :
    run serve (p.ensure last) w = (run serve p w).bind fun (x, w) =>
      (run serve last w).map fun (y, w) => (y.bind fun _ => x, w) := by
  induction p generalizing w with
  | done | unwind =>
    rw [Program.ensure, ← Program.bind_eq, run_bind]
    show (run serve last w).bind _ = (run serve last w).map _
    cases run serve last w with
    | none => rfl
    | some result =>
      obtain ⟨y, w⟩ := result
      cases y <;> rfl
  | access a next ih =>
    rw [Program.ensure]
    cases apply : a.apply w.shared with
    | none => rw [run_access_eq_none apply, run_access_eq_none apply]; rfl
    | some result =>
      rw [run_access apply, run_access apply]
      exact ih _
  | note entry next ih => exact ih
  | call c next ih =>
    rw [Program.ensure, run_call, run_call]
    exact ih _

/-- A run of two programs is a run of the first, and of the second unless the first panics. -/
theorem run_bind_inv {p : Program α} {f : α → Program β} {x : Option β}
    (h : run serve (p >>= f) w = some (x, w')) :
    ∃ y w₁, run serve p w = some (y, w₁) ∧
      match y with
      | some a => run serve (f a) w₁ = some (x, w')
      | none => x = none ∧ w' = w₁ := by
  rw [run_bind] at h
  obtain ⟨⟨y, w₁⟩, first, h⟩ := Option.bind_eq_some_iff.mp h
  refine ⟨y, w₁, first, ?_⟩
  cases y with
  | some a => exact h
  | none =>
    cases h
    exact ⟨rfl, rfl⟩

theorem eq_of_run_pure {p : Program α} {b b' : β}
    (h : run serve (p >>= fun _ => pure b) w = some (some b', w')) : b' = b := by
  obtain ⟨y, w₁, -, rest⟩ := run_bind_inv h
  cases y with
  | some a =>
    cases rest
    rfl
  | none => cases rest.1

theorem run_ensure_inv {p : Program α} {last : Program Unit} {x : Option α}
    (h : run serve (p.ensure last) w = some (x, w')) :
    ∃ y w₁ z, run serve p w = some (y, w₁) ∧ run serve last w₁ = some (z, w') ∧
      x = z.bind fun _ => y := by
  rw [run_ensure] at h
  obtain ⟨⟨y, w₁⟩, first, h⟩ := Option.bind_eq_some_iff.mp h
  obtain ⟨⟨z, w₂⟩, second, eq⟩ := Option.map_eq_some_iff.mp h
  cases eq
  exact ⟨y, w₁, z, first, second, rfl⟩

/-- A program does not wait for ever, and ends as is told. -/
def ComesTo (serve : Crew σ) (ends : Option α → Alone σ → Prop) (p : Program α) (w : Alone σ) :
    Prop :=
  ∃ x w', run serve p w = some (x, w') ∧ ends x w'

namespace ComesTo

variable {ends : Option α → Alone σ → Prop} {s s' : Shared} {crew : σ} {acts : List Act}

theorem done {a : α} (h : ends (some a) w) : ComesTo serve ends (pure a) w := ⟨some a, w, rfl, h⟩

theorem mono {ends' : Option α → Alone σ → Prop} {p : Program α} (h : ComesTo serve ends p w)
    (weaker : ∀ x w, ends x w → ends' x w) : ComesTo serve ends' p w := by
  obtain ⟨x, w', run, h⟩ := h
  exact ⟨x, w', run, weaker x w' h⟩

theorem bind {ends : Option β → Alone σ → Prop} {p : Program α} {f : α → Program β}
    (h : ComesTo serve
      (fun x w => match x with | some a => ComesTo serve ends (f a) w | none => ends none w) p w) :
    ComesTo serve ends (p >>= f) w := by
  obtain ⟨x, w₁, run, h⟩ := h
  cases x with
  | none => exact ⟨none, w₁, by rw [run_bind, run]; rfl, h⟩
  | some a =>
    obtain ⟨y, w₂, run', h⟩ := h
    refine ⟨y, w₂, ?_, h⟩
    rw [run_bind, run]
    exact run'

theorem ensure {p : Program α} {last : Program Unit}
    (h : ComesTo serve
      (fun x w => ComesTo serve (fun y w => ends (y.bind fun _ => x) w) last w) p w) :
    ComesTo serve ends (p.ensure last) w := by
  obtain ⟨x, w₁, run, y, w₂, run', h⟩ := h
  refine ⟨_, w₂, ?_, h⟩
  rw [run_ensure, run]
  show (Alone.run serve last w₁).map _ = _
  rw [run']
  rfl

theorem log {entry : Log.Entry} {f : Unit → Program α} (h : ComesTo serve ends (f ()) w) :
    ComesTo serve ends (Program.log entry >>= f) w := h

theorem touch {a : Access} {f : a.Answer → Program α} {x : a.Answer}
    (apply : a.apply s = some (x, s'))
    (h : ComesTo serve ends (f x) ⟨s', crew, acts ++ [.accessed a x]⟩) :
    ComesTo serve ends (Program.touch a >>= f) ⟨s, crew, acts⟩ := by
  obtain ⟨y, w, run, h⟩ := h
  exact ⟨y, w, (run_access (w := ⟨s, crew, acts⟩) apply).trans run, h⟩

theorem touchLast {a : Access} {ends : Option a.Answer → Alone σ → Prop} {x : a.Answer}
    (apply : a.apply s = some (x, s')) (h : ends (some x) ⟨s', crew, acts ++ [.accessed a x]⟩) :
    ComesTo serve ends (Program.touch a) ⟨s, crew, acts⟩ :=
  ⟨some x, _, run_access (w := ⟨s, crew, acts⟩) apply, h⟩

theorem ask {c : Call} {f : c.Answer → Program α}
    (panicked : ∀ crew', serve c crew = (none, crew') →
      ends none ⟨s, crew', acts ++ [.called c, .answered c none]⟩)
    (answered : ∀ x crew', serve c crew = (some x, crew') →
      ComesTo serve ends (f x) ⟨s, crew', acts ++ [.called c, .answered c (some x)]⟩) :
    ComesTo serve ends (Program.ask c >>= f) ⟨s, crew, acts⟩ := by
  have step : run serve (Program.ask c >>= f) ⟨s, crew, acts⟩ = _ := run_call c _
  cases served : serve c crew with
  | mk x crew' =>
    rw [served] at step
    cases x with
    | none => exact ⟨none, _, step, panicked crew' served⟩
    | some x =>
      obtain ⟨y, w, run, h⟩ := answered x crew' served
      exact ⟨y, w, step.trans run, h⟩

/-- A lock that is free can be had. -/
theorem withLock {l : Lock} {body : Program α} (free : s.isHeld l = false)
    (h : ComesTo serve (fun x w => ComesTo serve (fun y w => ends (y.bind fun _ => x) w)
        (Program.touch (.unlock l)) w) body
      ⟨s.setHeld true l, crew, acts ++ [.accessed (.lock l) ()]⟩) :
    ComesTo serve ends (Program.withLock l body) ⟨s, crew, acts⟩ := by
  exact touch (Access.apply_lock free) (ensure h)

end ComesTo

/-! ## What a run keeps -/

/-- What was done stays done, and no state comes back. -/
theorem run_grows {p : Program α} {x : Option α} (h : run serve p w = some (x, w')) :
    w.acts <+: w'.acts ∧ w.shared.state.rank ≤ w'.shared.state.rank := by
  induction p generalizing w with
  | done | unwind =>
    cases h
    exact ⟨List.prefix_rfl, Nat.le_refl _⟩
  | access a next ih =>
    cases apply : a.apply w.shared with
    | none => rw [run_access_eq_none apply] at h; cases h
    | some result =>
      rw [run_access apply] at h
      obtain ⟨acts, rank⟩ := ih _ h
      have possible : (Act.accessed a result.1).Possible w.shared := ⟨_, apply⟩
      have step := possible.rank_le
      rw [← Act.effect_of_apply apply] at step
      exact ⟨(List.prefix_append _ _).trans acts, Nat.le_trans step rank⟩
  | note entry next ih => exact ih h
  | call c next ih =>
    rw [run_call] at h
    obtain ⟨acts, rank⟩ := ih _ h
    exact ⟨(List.prefix_append _ _).trans acts, rank⟩

theorem requests_prefix (acts : w.acts <+: w'.acts) : w.requests <+: w'.requests :=
  acts.filterMap _

/-- A program that survives does not wait for a lock, and ends with the locks that its stance
tells. -/
theorem run_survives {ends : Option α → Stance → Prop} {r : Stance} {p : Program α}
    (careful : serve.Careful) (h : Survives ends r p)
    (locks : ∀ l, w.shared.isHeld l = r.holds l) :
    ∃ x w' r', run serve p w = some (x, w') ∧ ends x r' ∧
      ∀ l, w'.shared.isHeld l = r'.holds l := by
  induction p generalizing w r with
  | done a => exact ⟨some a, w, r, rfl, h, locks⟩
  | unwind => exact ⟨none, w, r, rfl, h, locks⟩
  | access a next ih =>
    cases apply : a.apply w.shared with
    | none =>
      obtain ⟨l, rfl, held⟩ := Access.apply_eq_none_iff.mp apply
      have free : r.holds l = false := (h () (Access.gives_lock l)).1.1
      rw [locks, free] at held
      cases held
    | some result =>
      obtain ⟨x, s⟩ := result
      obtain ⟨allowed, rest⟩ := h x ⟨w.shared, s, apply⟩
      rw [run_access apply]
      refine ih x rest fun l => ?_
      rw [Stance.holds_after, Act.effect_of_apply apply, Act.isHeld_effect, locks]
  | note entry next ih => exact ih h locks
  | call c next ih =>
    rw [run_call]
    exact ih _ (h.2 _ (careful c w.crew)) locks

/-- A program unwinds only if a call has panicked. -/
theorem exists_panicked {p : Program α} (completes : Completes p)
    (h : run serve p w = some (none, w')) :
    ∃ c crew, .answered c none ∈ w'.acts ∧ (serve c crew).1 = none := by
  induction p generalizing w with
  | done => cases h
  | unwind => exact completes.elim
  | access a next ih =>
    cases apply : a.apply w.shared with
    | none => rw [run_access_eq_none apply] at h; cases h
    | some result =>
      rw [run_access apply] at h
      exact ih _ (completes _ ⟨_, _, apply⟩) h
  | note entry next ih => exact ih completes h
  | call c next ih =>
    rw [run_call] at h
    cases served : (serve c w.crew).1 with
    | none =>
      rw [served] at h
      exact ⟨c, w.crew, (run_grows h).1.subset (by simp), served⟩
    | some x =>
      rw [served] at h
      exact ih _ (completes x) h

end Alone

/-! ## A run alone is a schedule -/

/-- A task may move at any time, and be answered as a crew answers. -/
structure Rule.Permits (rule : Rule) (serve : Crew σ) : Prop where
  advance : ∀ p i, rule p (.advance i) = true
  answer : ∀ c s p i, rule p (.answer i c (serve c s).1) = true

theorem Crew.Careful.permits {serve : Crew σ} (careful : serve.Careful) :
    Rule.panicking.Permits serve where
  advance _ _ := rfl
  answer c s _ _ := by simpa [Rule.panicking] using careful c s

/-- What is left of an operation that is over. -/
def Task.ended (x : Option Outcome) : Task :=
  .running (match x with | some outcome => .done outcome | none => .unwind)

theorem Task.isOver_ended (x : Option Outcome) : (Task.ended x).isOver = true := by
  cases x <;> rfl

namespace Pool

variable {rule : Rule} {p q r : Pool} {choice : Choice} {rest : List Choice}

theorem follow?_cons (permitted : rule p choice = true) (step : p.step? choice = some q) :
    p.follow? rule (choice :: rest) = q.follow? rule rest := by
  simp only [follow?, permitted, ↓reduceIte, step, Option.bind_some]

theorem follow?_append {first : List Choice} (h : p.follow? rule first = some q) :
    p.follow? rule (first ++ rest) = q.follow? rule rest := by
  induction first generalizing p with
  | nil => cases h; rfl
  | cons choice first ih =>
    simp only [follow?] at h
    split at h
    · next permitted =>
      obtain ⟨p', step, h⟩ := Option.bind_eq_some_iff.mp h
      rw [List.cons_append, follow?_cons permitted step, ih h]
    · cases h

/-- A run goes on with a choice that is permitted. -/
theorem run_append {schedule : List Choice} (run : Pool.run rule schedule = some p)
    (permitted : rule p choice = true) (step : p.step? choice = some q) :
    Pool.run rule (schedule ++ [choice]) = some q := by
  rw [Pool.run, follow?_append run, follow?_cons permitted step]
  rfl

/-- The pool after a task has run alone to its end. -/
def finish (p : Pool) (i : Nat) (operation : Operation) (x : Option Outcome) (shared : Shared)
    (acts : List Act) : Pool where
  shared := shared
  tasks := p.tasks.set i (operation, .ended x)
  trace := p.trace ++ acts.map fun act => (i, act)

variable {serve : Crew σ} {w w' : Alone σ} {i : Nat} {operation : Operation} {task : Task}
  {program : Program Outcome} {x : Option Outcome}

theorem finish_put (act : Option Act) (s shared : Shared) (acts : List Act) :
    (p.put i operation act s task).finish i operation x shared acts =
      p.finish i operation x shared (act.toList ++ acts) := by
  cases act <;> simp [put, finish]

theorem getElem?_put (hi : p.tasks[i]? = some (operation, task)) (act : Option Act) (s : Shared)
    (task' : Task) :
    (p.put i operation act s task').tasks[i]? = some (operation, task') := by
  have lt := (List.getElem?_eq_some_iff.mp hi).1
  simp [put, lt]

theorem set_self (hi : p.tasks[i]? = some (operation, task)) :
    p.tasks.set i (operation, task) = p.tasks := by
  obtain ⟨lt, eq⟩ := List.getElem?_eq_some_iff.mp hi
  rw [← eq, List.set_getElem_self lt]

theorem step?_advance {act : Option Act} {s : Shared} {task' : Task}
    (hi : p.tasks[i]? = some (operation, task))
    (moves : task.advance? p.shared = some (act, s, task')) :
    p.step? (.advance i) = some (p.put i operation act s task') := by
  simp [step?, hi, moves]

theorem step?_answer {c : Call} {next : Option c.Answer → Program Outcome}
    (hi : p.tasks[i]? = some (operation, .calling c next)) (x : Option c.Answer) :
    p.step? (.answer i c x) =
      some (p.put i operation (some (.answered c x)) p.shared (.running (next x))) := by
  simp [step?, hi, Task.answer?]

/-- What an operation does alone, a task of a pool does in one go. -/
theorem follow?_of_run (permits : rule.Permits serve) (h : w.run serve program = some (x, w'))
    (shared : p.shared = w.shared) (hi : p.tasks[i]? = some (operation, .running program)) :
    ∃ rest acts, w'.acts = w.acts ++ acts ∧
      p.follow? rule rest = some (p.finish i operation x w'.shared acts) := by
  induction program generalizing w p with
  | done outcome =>
    cases h
    exact ⟨[], [], by simp, by simp [follow?, finish, Task.ended, set_self hi, ← shared]⟩
  | unwind =>
    cases h
    exact ⟨[], [], by simp, by simp [follow?, finish, Task.ended, set_self hi, ← shared]⟩
  | note entry next ih =>
    obtain ⟨rest, acts, eq, follow⟩ := ih
      (p := p.put i operation none p.shared (.running next)) h shared
      (getElem?_put hi none p.shared _)
    refine ⟨.advance i :: rest, acts, eq, ?_⟩
    rw [follow?_cons (permits.advance p i) (step?_advance hi rfl), follow, finish_put]
    rfl
  | access a next ih =>
    cases apply : a.apply w.shared with
    | none => rw [Alone.run_access_eq_none apply] at h; cases h
    | some result =>
      obtain ⟨y, s⟩ := result
      rw [Alone.run_access apply] at h
      obtain ⟨rest, acts, eq, follow⟩ := ih y h rfl (getElem?_put hi (some (.accessed a y)) s _)
      refine ⟨.advance i :: rest, .accessed a y :: acts, by rw [eq]; simp, ?_⟩
      have moves : (Task.running (.access a next)).advance? p.shared =
          some (some (.accessed a y), s, .running (next y)) := by
        rw [shared]
        simp [Task.advance?, apply]
      rw [follow?_cons (permits.advance p i) (step?_advance hi moves), follow, finish_put]
      rfl
  | call c next ih =>
    rw [Alone.run_call] at h
    have permitted := permits.answer c w.crew
    generalize (serve c w.crew).1 = y at h permitted
    -- The call and its answer are two steps; between them the task waits.
    let asked := p.put i operation (some (.called c)) p.shared (.calling c next)
    let answered := asked.put i operation (some (.answered c y)) p.shared (.running (next y))
    have waits := getElem?_put hi (some (.called c)) p.shared (.calling c next)
    have goesOn := getElem?_put waits (some (.answered c y)) p.shared (.running (next y))
    have answers : asked.step? (.answer i c y) = some answered := step?_answer waits y
    obtain ⟨rest, acts, eq, follow⟩ := ih y (p := answered) h shared goesOn
    refine ⟨.advance i :: .answer i c y :: rest, .called c :: .answered c y :: acts,
      by rw [eq]; simp, ?_⟩
    rw [follow?_cons (permits.advance p i) (step?_advance hi rfl),
      follow?_cons (permitted asked i) answers, follow,
      finish_put, finish_put]
    rfl

end Pool
end Tenure.Lifecycle
