import Tenure.Proofs.History

/-!
# What a task may call for

A discipline says what a task may call for by what it has done so far. A program abides by it if it
calls for nothing else, whatever the variables hold, whatever the collaborators answer and whoever
panics. If every program abides, then in every run every call was allowed when it was made, by the
acts of its own task.
-/
namespace Tenure.Lifecycle

structure Discipline (σ : Type) where
  start : σ
  after : σ → Act → σ
  allows : σ → Call → Prop

namespace Discipline

variable {σ α β : Type} {D : Discipline σ}

/-- A program abides by a discipline, and ends or unwinds as `ends` says. -/
def Abides (D : Discipline σ) (ends : Option α → σ → Prop) : σ → Program α → Prop
  | r, .done a => ends (some a) r
  | r, .unwind => ends none r
  | r, .access a next => ∀ x, a.Gives x → D.Abides ends (D.after r (.accessed a x)) (next x)
  | r, .note _ next => D.Abides ends r next
  | r, .call c next =>
    D.allows r c ∧ ∀ x, D.Abides ends (D.after (D.after r (.called c)) (.answered c x)) (next x)

namespace Abides

variable {ends : Option α → σ → Prop} {r : σ}

/-! ## Rules -/

theorem mono {ends' : Option α → σ → Prop} {p : Program α} (h : D.Abides ends r p)
    (weaker : ∀ x r, ends x r → ends' x r) : D.Abides ends' r p := by
  induction p generalizing r with
  | done | unwind => exact weaker _ _ h
  | access a next ih => exact fun x hx => ih x (h x hx)
  | note entry next ih => exact ih h
  | call c next ih => exact ⟨h.1, fun x => ih x (h.2 x)⟩

theorem bind {ends : Option β → σ → Prop} {p : Program α} {f : α → Program β}
    (h : D.Abides
      (fun x r => match x with | some a => D.Abides ends r (f a) | none => ends none r) r p) :
    D.Abides ends r (p >>= f) := by
  rw [Program.bind_eq]
  induction p generalizing r with
  | done | unwind => exact h
  | access a next ih => exact fun x hx => ih x (h x hx)
  | note entry next ih => exact ih h
  | call c next ih => exact ⟨h.1, fun x => ih x (h.2 x)⟩

theorem ensure {p : Program α} {last : Program Unit}
    (h : D.Abides (fun x r => D.Abides (fun y r => ends (y.bind fun _ => x) r) r last) r p) :
    D.Abides ends r (p.ensure last) := by
  induction p generalizing r with
  | done a | unwind =>
    refine bind (mono h fun y r h => ?_)
    cases y <;> exact h
  | access a next ih => exact fun x hx => ih x (h x hx)
  | note entry next ih => exact ih h
  | call c next ih => exact ⟨h.1, fun x => ih x (h.2 x)⟩

theorem touch {a : Access} {f : a.Answer → Program α}
    (h : ∀ x, a.Gives x → D.Abides ends (D.after r (.accessed a x)) (f x)) :
    D.Abides ends r (Program.touch a >>= f) := h

theorem log {entry : Log.Entry} {f : Unit → Program α} (h : D.Abides ends r (f ())) :
    D.Abides ends r (Program.log entry >>= f) := h

theorem ask {c : Call} {f : c.Answer → Program α} (allowed : D.allows r c)
    (panicked : ends none (D.after (D.after r (.called c)) (.answered c none)))
    (answered : ∀ x, D.Abides ends (D.after (D.after r (.called c)) (.answered c (some x))) (f x)) :
    D.Abides ends r (Program.ask c >>= f) := by
  refine ⟨allowed, fun x => ?_⟩
  cases x with
  | some x => exact answered x
  | none => exact panicked

theorem withLock {l : Lock} {body : Program α}
    (h : ∀ x, D.Abides (fun y r => ∀ z, ends y (D.after r (.accessed (.unlock l) z)))
      (D.after r (.accessed (.lock l) x)) body) :
    D.Abides ends r (Program.withLock l body) :=
  .touch fun x _ => .ensure ((h x).mono fun _ _ ended z _ => ended z)

/-- What follows a program need not know how the program ended. -/
theorem andThen {ends : Option β → σ → Prop} {p : Program α} {f : α → Program β}
    (h : D.Abides (fun _ _ => True) r p) (panicked : ∀ r, ends none r)
    (next : ∀ a r, D.Abides ends r (f a)) : D.Abides ends r (p >>= f) := by
  refine bind (h.mono fun x r _ => ?_)
  cases x with
  | some a => exact next a r
  | none => exact panicked r

/-- What every act keeps is kept by every program, if it allows every call. -/
theorem always {P : σ → Prop} (after : ∀ r e, P r → P (D.after r e))
    (allows : ∀ r c, P r → D.allows r c) (h : P r) (p : Program α) :
    D.Abides (fun _ r => P r) r p := by
  induction p generalizing r with
  | done | unwind => exact h
  | access a next ih => exact fun x _ => ih x (after _ _ h)
  | note entry next ih => exact ih h
  | call c next ih => exact ⟨allows _ _ h, fun x => ih x (after _ _ (after _ _ h))⟩

end Abides

/-! ## Tasks -/

/-- What is left of a task abides. -/
def Keeps (D : Discipline σ) (ends : Option Outcome → σ → Prop) (r : σ) : Task → Prop
  | .running rest => D.Abides ends r rest
  | .calling c next => ∀ x, D.Abides ends (D.after r (.answered c x)) (next x)

/-- Where acts lead, each call allowed when it was made. -/
inductive Walk (D : Discipline σ) : List Act → σ → Prop where
  | start : D.Walk [] D.start
  | step {acts : List Act} {r : σ} {e : Act} (walk : D.Walk acts r)
      (allowed : ∀ c, e = .called c → D.allows r c) : D.Walk (acts ++ [e]) (D.after r e)

theorem Keeps.moves {ends : Option Outcome → σ → Prop} {r : σ} {s s' : Shared} {task task' : Task}
    {act : Option Act} (h : D.Keeps ends r task) (moves : Pool.Moves s task act s' task') :
    match act with
    | none => D.Keeps ends r task'
    | some e => (∀ c, e = .called c → D.allows r c) ∧ D.Keeps ends (D.after r e) task' := by
  cases moves with
  | access apply => exact ⟨nofun, h _ ⟨_, _, apply⟩⟩
  | note => exact h
  | call =>
    refine ⟨fun c eq => ?_, h.2⟩
    cases eq
    exact h.1
  | answer => exact ⟨nofun, h _⟩

/-! ## Runs -/

section Runs

variable {ends : Operation → Option Outcome → σ → Prop} {rule : Rule} {schedule : List Choice}
  {p q : Pool} {i : Nat} {operation : Operation} {task : Task}

/-- The programs of all operations abide. -/
def Governs (D : Discipline σ) (ends : Operation → Option Outcome → σ → Prop) : Prop :=
  ∀ operation : Operation, D.Abides (ends operation) D.start operation.program

/-- In every run, each task has only called for what it was allowed to, and abides further. -/
theorem Governs.run (governs : D.Governs ends) (run : Pool.run rule schedule = some p) :
    ∀ (i : Nat) (entry : Operation × Task), p.tasks[i]? = some entry →
      ∃ r, D.Walk (p.trace.acts i) r ∧ D.Keeps (ends entry.1) r entry.2 := by
  refine (Pool.run_induction
    (motive := fun p => (∃ schedule, Pool.run rule schedule = some p) ∧
      ∀ (i : Nat) (entry : Operation × Task), p.tasks[i]? = some entry →
        ∃ r, D.Walk (p.trace.acts i) r ∧ D.Keeps (ends entry.1) r entry.2)
    ⟨⟨[], rfl⟩, by simp⟩ (fun p q choice ih permitted step => ?_) run).2
  obtain ⟨⟨schedule, run⟩, ih⟩ := ih
  refine ⟨⟨_, Pool.run_append run permitted step⟩, ?_⟩
  have known := Pool.known run
  rcases Pool.step?_cases step with
    ⟨o, rfl, rfl⟩ | ⟨j, o, task, act, s, task', -, -, hj, moves, rfl⟩
  · exact Trace.each_append
      (P := fun acts (entry : Operation × Task) =>
        ∃ r, D.Walk acts r ∧ D.Keeps (ends entry.1) r entry.2)
      ih known ⟨D.start, .start, governs o⟩
  · obtain ⟨r, walk, keeps⟩ := ih j _ hj
    have next := keeps.moves moves
    refine Trace.each_set
      (P := fun acts (entry : Operation × Task) =>
        ∃ r, D.Walk acts r ∧ D.Keeps (ends entry.1) r entry.2)
      ih ?_ fun k ne => ?_
    · cases act with
      | none => exact ⟨r, by simpa [Pool.put] using walk, next⟩
      | some e =>
        refine ⟨D.after r e, ?_, next.2⟩
        simpa [Pool.put, Trace.acts_append_self] using walk.step next.1
    · cases act with
      | none => simp [Pool.put]
      | some e => exact Trace.acts_append_of_ne ne _ _

/-- A call was allowed by what its task had done before. -/
theorem Governs.allowed (governs : D.Governs ends) {before : Trace} {c : Call}
    (moment : Pool.Moment rule before i (.called c) q operation task) :
    ∃ r, D.Walk (before.acts i) r ∧ D.allows r c := by
  obtain ⟨schedule, run⟩ := moment.run
  obtain ⟨s, task', moves⟩ := moment.moves
  obtain ⟨r, walk, keeps⟩ := governs.run run i _ moment.held
  rw [moment.trace] at walk
  exact ⟨r, walk, (keeps.moves moves).1 c rfl⟩

/-- An operation that is over has ended as its program ends. -/
theorem Governs.ended (governs : D.Governs ends) (run : Pool.run rule schedule = some p)
    {outcome : Outcome} (ended : p.Ended i operation outcome) :
    ∃ r, D.Walk (p.trace.acts i) r ∧ ends operation (some outcome) r :=
  governs.run run i _ ended.task

end Runs

end Discipline
end Tenure.Lifecycle
