import Tenure.Proofs.Course
import Tenure.Proofs.Housed

/-!
# A preparation under which the replica dies

Whoever has the replica die tears it down, and stops the storage. A preparation that is under way
meanwhile learns of the death when it asks for its next state, and is terminated; but if the storage
is stopped before it takes up the call to make it ready, the preparation learns of that first, and
tells it as a failure of the storage.
-/
namespace Tenure.Lifecycle

variable {α : Type}

/-! ## What a preparation hears -/

/-- What a task that prepares has heard. -/
inductive Hearing where
  /-- It has not been granted its first state, but may have been refused it. -/
  | out (refusal : Option IllegalMove)
  | granted
  /-- The storage is ready. -/
  | ready
  | failed (e : StorageError)
  /-- The storage was ready, and this came of the request of the next state. -/
  | asked (x : Except IllegalMove Edge)

namespace Hearing

def after : Hearing → Act → Hearing
  | out _, .accessed (.install .preparingStorage) (.error refusal) => out (some refusal)
  | out _, .accessed (.install .preparingStorage) (.ok _) => granted
  | granted, .answered .prepareStorage (some (.ok ())) => ready
  | granted, .answered .prepareStorage (some (.error e)) => failed e
  | ready, .accessed (.install .storagePrepared) x => asked x
  | r, _ => r

def discipline : Discipline Hearing where
  start := out none
  after := after
  allows _ _ := True

/-- What a preparation tells by what it has heard. -/
def Tells : Hearing → Outcome → Prop
  | out refusal, outcome => ∃ m, refusal = some m ∧ outcome = .error (.illegalMove m)
  | granted, _ | ready, _ => False
  | failed e, outcome => outcome = .error (.storageInitialization e)
  | asked (.error ⟨.dead, _⟩), outcome => outcome = .error .terminated
  | asked _, _ => True

/-- What has been done when this has been heard. -/
def Behind (acts : List Act) : Hearing → Prop
  | out _ => ∀ edge, .accessed (.install .preparingStorage) (.ok edge) ∉ acts
  | granted => True
  | ready => .answered .prepareStorage (some (.ok ())) ∈ acts
  | failed e => .answered .prepareStorage (some (.error e)) ∈ acts
  | asked x => .answered .prepareStorage (some (.ok ())) ∈ acts ∧
      .accessed (.install .storagePrepared) x ∈ acts

theorem behind_of_walk {acts : List Act} {r : Hearing} (walk : discipline.Walk acts r) :
    r.Behind acts := by
  induction walk with
  | start => exact fun _ => List.not_mem_nil
  | @step acts r e walk allowed ih =>
    show (after r e).Behind (acts ++ [e])
    fun_cases after r e with
    | case1 refusal => simpa [Behind] using ih
    | case2 refusal edge => trivial
    | case3 | case4 => simp [Behind]
    | case5 x => exact ⟨List.mem_append_left _ ih, by simp⟩
    | case6 r e fresh ungranted =>
      cases r with
      | out refusal =>
        intro edge mem
        rcases List.mem_append.mp mem with old | new
        · exact ih edge old
        · exact ungranted refusal edge rfl (List.mem_singleton.mp new).symm
      | granted => trivial
      | ready | failed e => exact List.mem_append_left _ ih
      | asked x => exact ⟨List.mem_append_left _ ih.1, List.mem_append_left _ ih.2⟩

/-- What a task tells, if it ends. -/
def Told (x : Option Outcome) (r : Hearing) : Prop := ∀ outcome, x = some outcome → r.Tells outcome

/-- Whoever has asked for its next state, or whose storage has failed, hears nothing more. -/
theorem abides_heard {r : Hearing} (heard : ∀ e, after r e = r) {ends : Option α → Hearing → Prop}
    (h : ∀ x, ends x r) (p : Program α) : discipline.Abides ends r p := by
  refine (Discipline.Abides.always (P := (· = r)) ?_ (fun _ _ _ => trivial) rfl p).mono ?_
  · rintro _ e rfl
    exact heard e
  · rintro x _ rfl
    exact h x

theorem told_prepareStorage : discipline.Abides Told granted prepareStorage := by
  refine .ask trivial nofun fun x => ?_
  cases x with
  | ok =>
    refine .bind (.touch fun x gives => ?_)
    rcases Access.gives_install gives with ⟨source, rfl⟩ | ⟨source, -, rfl⟩
    · refine abides_heard (fun _ => rfl) (fun x => ?_) _
      cases x with
      | none => exact nofun
      | some outcome => exact abides_heard (fun _ => rfl) (fun _ _ _ => trivial) _
    · cases source with
      | dead => exact fun _ eq => (Option.some.inj eq).symm
      | _ => exact fun _ _ => trivial
  | error e =>
    refine .log (.bind (abides_heard (fun _ => rfl) (fun x => ?_) _))
    cases x with
    | none => exact nofun
    | some => exact fun _ eq => (Option.some.inj eq).symm

theorem told_prepare : discipline.Abides Told (out none) prepare := by
  refine .touch fun x gives => ?_
  rcases Access.gives_install gives with ⟨source, rfl⟩ | ⟨source, -, rfl⟩
  · refine .log (.ask trivial nofun fun _ => .bind (told_prepareStorage.mono fun x r told => ?_))
    cases x with
    | none => exact nofun
    | some outcome => exact told
  · exact fun _ eq => ⟨_, rfl, (Option.some.inj eq).symm⟩

theorem governs : discipline.Governs fun operation x r => operation = .prepare → Told x r := by
  intro operation
  by_cases prepares : operation = .prepare
  · subst prepares
    exact told_prepare.mono fun _ _ told _ => told
  · exact (Discipline.Abides.always (P := fun _ => True) (fun _ _ _ => trivial)
      (fun _ _ _ => trivial) trivial _).mono fun _ _ _ same => (prepares same).elim

end Hearing

/-! ## A preparation that goes on -/

/-- A call that a preparation makes before anybody is torn down. -/
def Call.isPreliminary : Call → Bool
  | prepareStorage | notice _ => true
  | _ => false

/-- Whether the storage was not made ready. -/
def Act.fails : Act → Bool
  | answered .prepareStorage (some (.error _)) => true
  | _ => false

namespace Program

/-- A program that ends if its calls are answered: it waits for no lock, and if it tears the replica
down then in vain. It relies on a teardown having begun when `torn` holds, and when the storage was
not made ready. -/
def Concludes (torn : Prop) : Program α → Prop
  | done _ => True
  | unwind => False
  | access a next => (∀ l, a ≠ .lock l) ∧ ∀ s x s', (torn → s.tornDown = true) →
      a.apply s = some (x, s') → (next x).Concludes torn
  | note _ next => next.Concludes torn
  | call c next => c.isPreliminary = true ∧
      ∀ x, (next (some x)).Concludes (torn ∨ (Act.answered c (some x)).fails = true)

namespace Concludes

variable {β : Type} {torn : Prop}

theorem mono {torn' : Prop} {p : Program α} (h : p.Concludes torn) (weaker : torn → torn') :
    p.Concludes torn' := by
  induction p generalizing torn torn' with
  | done => trivial
  | unwind => exact h
  | access a next ih =>
    exact ⟨h.1, fun s x s' known apply => ih x (h.2 s x s' (known ∘ weaker) apply) weaker⟩
  | note entry next ih => exact ih h weaker
  | call c next ih => exact ⟨h.1, fun x => ih _ (h.2 x) (Or.imp_left weaker)⟩

theorem bind {p : Program α} {f : α → Program β} (h : p.Concludes torn)
    (next : ∀ a, (f a).Concludes torn) : (p >>= f).Concludes torn := by
  rw [Program.bind_eq]
  induction p generalizing torn with
  | done a => exact next a
  | unwind => exact h
  | access a rest ih =>
    exact ⟨h.1, fun s x s' known apply => ih x (h.2 s x s' known apply) next⟩
  | note entry rest ih => exact ih h next
  | call c rest ih => exact ⟨h.1, fun x => ih _ (h.2 x) fun a => (next a).mono .inl⟩

theorem touch {a : Access} {f : a.Answer → Program α} (free : ∀ l, a ≠ .lock l)
    (h : ∀ s x s', (torn → s.tornDown = true) → a.apply s = some (x, s') →
      (f x).Concludes torn) : (Program.touch a >>= f).Concludes torn := ⟨free, h⟩

theorem log {entry : Log.Entry} {f : Unit → Program α} (h : (f ()).Concludes torn) :
    (Program.log entry >>= f).Concludes torn := h

theorem ask {c : Call} {f : c.Answer → Program α} (preliminary : c.isPreliminary = true)
    (h : ∀ x, (f x).Concludes (torn ∨ (Act.answered c (some x)).fails = true)) :
    (Program.ask c >>= f).Concludes torn := ⟨preliminary, h⟩

end Concludes
end Program

open Program

/-- Whoever comes late to a teardown leaves it alone. -/
theorem concludes_tearDown {torn : Prop} (known : torn) : tearDown.Concludes torn := by
  refine .touch nofun fun s x s' begun apply => ?_
  obtain rfl : (!s.tornDown) = x := congrArg Prod.fst (Option.some.inj apply)
  rw [begun known]
  trivial

theorem Program.Concludes.requestWith {torn : Prop} {act : Duty → Program Outcome} {target : State}
    (h : ∀ duty, target.duty = some duty → (act duty).Concludes torn)
    (known : target = .dead → torn) : (requestWith act target).Concludes torn := by
  refine .touch nofun fun s x s' _ apply => ?_
  rcases Access.gives_install ⟨s, s', apply⟩ with ⟨source, rfl⟩ | ⟨source, -, rfl⟩
  · refine .log (.ask rfl fun _ => .mono ?_ .inl)
    have rest (outcome : Outcome) : Program.Concludes torn
        (if target.isDead then tearDown >>= fun _ => pure outcome else pure outcome) := by
      by_cases dead : target.isDead = true
      · rw [if_pos dead]
        exact .bind (concludes_tearDown (known (State.isDead_iff.mp dead))) fun _ => trivial
      · rw [if_neg dead]
        trivial
    cases calls : target.duty with
    | none => exact rest _
    | some duty => exact .bind (h duty calls) rest
  · trivial

theorem concludes_kill {torn : Prop} (known : torn) (reason : String) :
    (kill reason).Concludes torn := by
  refine .log (.bind (.requestWith (fun _ _ => trivial) fun _ => known) fun outcome => ?_)
  cases outcome <;> trivial

theorem concludes_prepareStorage {torn : Prop} : prepareStorage.Concludes torn := by
  refine .ask rfl fun x => ?_
  cases x with
  | ok =>
    refine .bind (.requestWith (fun _ _ => trivial) nofun) fun outcome => ?_
    split <;> trivial
  | error e => exact .log (.bind (concludes_kill (.inr rfl) _) fun _ => trivial)

theorem concludes_prepare {torn : Prop} : prepare.Concludes torn := by
  refine .requestWith ?_ nofun
  rintro _ ⟨⟩
  exact concludes_prepareStorage

/-- What is left of a task ends if it is answered. -/
def Task.Concludes (torn : Prop) : Task → Prop
  | running rest => rest.Concludes torn
  | calling c next => c.isPreliminary = true ∧
      ∀ x, (next (some x)).Concludes (torn ∨ (Act.answered c (some x)).fails = true)

theorem Task.Concludes.mono {torn torn' : Prop} {task : Task} (h : task.Concludes torn)
    (weaker : torn → torn') : task.Concludes torn' := by
  cases task with
  | running rest => exact Program.Concludes.mono h weaker
  | calling c next => exact ⟨h.1, fun x => (h.2 x).mono (Or.imp_left weaker)⟩

namespace Pool

variable {p q : Pool}

/-- All preparations end if they are answered. -/
def Concluding (p : Pool) : Prop :=
  ∀ entry ∈ p.tasks, entry.1 = .prepare → entry.2.Concludes (p.shared.tornDown = true)

/-- That goes on if every preparation is answered, and the storage fails in a teardown only. -/
theorem concluding_of_step (h : p.Concluding) {choice : Choice} (step : p.step? choice = some q)
    (answers : ∀ i c x, choice = .answer i c x → c.isPreliminary = true → ∃ y, x = some y ∧
      ((Act.answered c (some y)).fails = true → p.shared.tornDown = true)) : q.Concluding := by
  intro entry mem prepares
  have onward := (onward_of_step step).tornDown
  rcases step?_cases step with
    ⟨o, rfl, rfl⟩ | ⟨j, o, task, act, s, task', -, answered, hj, moves, rfl⟩
  · rcases List.mem_append.mp mem with old | new
    · exact h entry old prepares
    · obtain rfl := List.mem_singleton.mp new
      obtain rfl : o = .prepare := prepares
      exact concludes_prepare
  · rcases List.mem_or_eq_of_mem_set mem with old | rfl
    · exact (h entry old prepares).mono onward
    · have concludes := h _ (List.mem_of_getElem? hj) prepares
      cases moves with
      | access apply => exact (concludes.2 _ _ _ id apply).mono onward
      | note => exact concludes
      | call => exact concludes
      | @answer c next x =>
        obtain ⟨y, rfl, failed⟩ := answers j c x (answered c x rfl) concludes.1
        exact (concludes.2 y).mono (Or.elim · id failed)

end Pool

namespace Housed

variable {w w' : Housed} {i : Nat}

theorem Sound.concluding_of_step (h : w.Sound) {choice : Choice} (moved : w.step? choice = some w')
    (concluding : w.pool.Concluding) : w'.pool.Concluding := by
  cases steps_of_step? moved with
  | move permitted step other =>
    refine Pool.concluding_of_step concluding step ?_
    -- What is preliminary and not for the storage is a notice, which is always given.
    rintro j c x rfl preliminary
    cases c with
    | notice n =>
      cases x with
      | none => cases permitted
      | some y => exact ⟨y, rfl, nofun⟩
    | prepareStorage => cases other _ _ _ rfl
    | _ => cases preliminary
  | take | save => exact concluding
  | @hear j c x pool ready step =>
    refine Pool.concluding_of_step concluding step ?_
    rintro _ _ _ ⟨⟩ -
    refine ⟨x, rfl, fun failed => ?_⟩
    cases c with
    | prepareStorage =>
      cases x with
      | ok => cases failed
      | error e => exact h.failed j e ready
    | _ => cases failed

/-- What always holds, preparations included. -/
structure Steady (w : Housed) : Prop where
  sound : w.Sound
  concluding : w.pool.Concluding

theorem Steady.step (h : w.Steady) {choice : Choice} (moved : w.step? choice = some w') :
    w'.Steady :=
  ⟨h.sound.step moved, h.sound.concluding_of_step moved h.concluding⟩

theorem steady_of_follow {d : Durable} (openable : d.Openable) (unstopped : d.slot ≠ .stopped)
    {schedule : List Choice} (follow : ({ storage := d } : Housed).follow? schedule = some w) :
    w.Steady :=
  follow_induction (motive := Steady) (fun _ _ _ steady moved => steady.step moved)
    ⟨.start openable unstopped, List.forall_mem_nil _⟩ follow

/-- A task comes to a situation by choices of its own. -/
def Reaches (i : Nat) (w w' : Housed) : Prop :=
  ∃ own : List Choice, (∀ choice ∈ own, choice.task? = some i) ∧ w.follow? own = some w'

theorem Reaches.refl (w : Housed) : Reaches i w w := ⟨[], List.forall_mem_nil _, rfl⟩

theorem Reaches.head {w₁ : Housed} {choice : Choice} (own : choice.task? = some i)
    (moved : w.step? choice = some w₁) (h : Reaches i w₁ w') : Reaches i w w' := by
  obtain ⟨rest, owns, follow⟩ := h
  refine ⟨choice :: rest, List.forall_mem_cons.mpr ⟨own, owns⟩, ?_⟩
  rw [follow?, moved]
  exact follow

/-- From here a preparation can go on to its end. -/
def Completes (i : Nat) (w : Housed) : Prop :=
  ∃ w' outcome, Reaches i w w' ∧ w'.pool.Ended i .prepare outcome

theorem Completes.head {w₁ : Housed} {choice : Choice} (own : choice.task? = some i)
    (moved : w.step? choice = some w₁) (h : Completes i w₁) : Completes i w := by
  obtain ⟨w', outcome, reaches, ended⟩ := h
  exact ⟨w', outcome, reaches.head own moved, ended⟩

/-- A preparation goes on by a step of its own. -/
theorem completes_of_advance {task task' : Task} {act : Option Act} {s : Shared} (steady : w.Steady)
    (hi : w.pool.tasks[i]? = some (.prepare, task))
    (moves : task.advance? w.pool.shared = some (act, s, task'))
    (h : ∀ w₁ : Housed, w₁.Steady → w₁.pool.tasks[i]? = some (.prepare, task') →
      Completes i w₁) : Completes i w := by
  have moved : w.step? (.advance i) = some { w with pool := w.pool.put i .prepare act s task' } := by
    rw [step?, move?, Pool.step?_advance hi moves]
    rfl
  exact .head rfl moved (h _ (steady.step moved) (Pool.getElem?_put hi _ _ _))

section Calls

variable {c : Call} {next : Option c.Answer → Program Outcome} (steady : w.Steady)
  (hi : w.pool.tasks[i]? = some (.prepare, .calling c next))
  (h : ∀ (w₁ : Housed) x, w₁.Steady →
    w₁.pool.tasks[i]? = some (.prepare, .running (next (some x))) → Completes i w₁)

include steady hi h

/-- A preparation goes on when it hears what the storage made of its call. -/
theorem completes_of_ready {x : c.Answer} (ready : w.ready i = some ⟨c, x⟩) : Completes i w := by
  obtain ⟨pool, step, resumed, -⟩ := Pool.exists_answered hi (some x)
  have moved : w.step? (.hear i) = some { w.setReady i none with pool } := by
    simp only [step?, ready]
    exact Option.map_eq_some_iff.mpr ⟨pool, step, rfl⟩
  exact .head rfl moved (h _ x (steady.step moved) resumed)

/-- A preparation goes on when its call is taken up and answered. -/
theorem completes_of_calling (preliminary : c.isPreliminary = true) : Completes i w := by
  cases c with
  | notice n =>
    obtain ⟨pool, step, resumed, -⟩ := Pool.exists_answered hi (some ())
    have moved : w.step? (.answer i (.notice n) (some ())) = some { w with pool } :=
      Option.map_eq_some_iff.mpr ⟨pool, step, rfl⟩
    exact .head rfl moved (h _ () (steady.step moved) resumed)
  | prepareStorage =>
    have asks : w.Asks i .prepareStorage := ⟨.prepare, _, hi, rfl⟩
    cases ready : w.ready i with
    | some made =>
      obtain ⟨c, x⟩ := made
      obtain rfl := (steady.sound.waits i c x ready).2.unique asks
      exact completes_of_ready steady hi h ready
    | none =>
      let made := Durable.storage.prepare.run w.storage
      let w₁ : Housed := { w.setReady i (some ⟨.prepareStorage, made.1⟩) with storage := made.2 }
      have moved : w.step? (.take i) = some w₁ := by
        simp only [step?, hi, ready]
        rfl
      exact .head rfl moved (completes_of_ready (w := w₁) (steady.step moved) hi h (if_pos rfl))
  | _ => cases preliminary

end Calls

theorem completes_of_running {rest : Program Outcome} (steady : w.Steady)
    (hi : w.pool.tasks[i]? = some (.prepare, .running rest)) : Completes i w := by
  have concludes : rest.Concludes _ := steady.concluding _ (List.mem_of_getElem? hi) rfl
  induction rest generalizing w with
  | done outcome => exact ⟨w, outcome, .refl w, by simp [Pool.Ended, hi, Task.outcome?]⟩
  | unwind => exact concludes.elim
  | access a next ih =>
    cases apply : a.apply w.pool.shared with
    | none =>
      obtain ⟨l, lock, -⟩ := Access.apply_eq_none_iff.mp apply
      exact (concludes.1 l lock).elim
    | some given =>
      refine completes_of_advance steady hi (Task.advance?_access apply) fun w₁ steady hi => ?_
      exact ih given.1 steady hi (steady.concluding _ (List.mem_of_getElem? hi) rfl)
  | note entry next ih =>
    refine completes_of_advance steady hi rfl fun w₁ steady hi => ?_
    exact ih steady hi (steady.concluding _ (List.mem_of_getElem? hi) rfl)
  | call c next ih =>
    refine completes_of_advance steady hi rfl fun w₁ steady hi => ?_
    refine completes_of_calling steady hi (fun w₂ x steady hi => ?_) concludes.1
    exact ih (some x) steady hi (steady.concluding _ (List.mem_of_getElem? hi) rfl)

/-- A preparation waits for nobody but the storage: wherever it is, it can go on to its end. -/
theorem Steady.completes {task : Task} (h : w.Steady)
    (hi : w.pool.tasks[i]? = some (.prepare, task)) : Completes i w := by
  cases task with
  | running rest => exact completes_of_running h hi
  | calling c next =>
    have concludes := h.concluding _ (List.mem_of_getElem? hi) rfl
    exact completes_of_calling h hi (fun w₁ x => completes_of_running) concludes.1

/-! ## How it ends -/

/-- A preparation is under way: it was granted its first state, and has not asked for the next. -/
structure Prepares (w : Housed) (i : Nat) : Prop where
  operation : w.pool.tasks[i]?.map Prod.fst = some .prepare
  granted : .preparingStorage ∈ (w.pool.trace.acts i).filterMap Act.installs?
  unasked : ∀ e ∈ w.pool.trace.acts i, e.request?.map Prod.fst ≠ some .storagePrepared

instance : Decidable (w.Prepares i) :=
  decidable_of_iff (_ ∧ _ ∧ _) ⟨fun ⟨h, h', h''⟩ => ⟨h, h', h''⟩, fun ⟨h, h', h''⟩ => ⟨h, h', h''⟩⟩

end Housed

/-- Once a replica is dead, a request is answered so. -/
theorem Pool.answered_dead {rule : Rule} {schedule schedule' : List Choice} {p q : Pool}
    (before : Pool.run rule schedule = some p) (dead : p.shared.state = .dead)
    (run : Pool.run rule schedule' = some q) (onward : p.Onward q) {i : Nat} {target : State}
    {x : Except IllegalMove Edge} (late : .accessed (.install target) x ∉ p.trace.acts i)
    (mem : .accessed (.install target) x ∈ q.trace.acts i) : x = State.dead.move target := by
  obtain ⟨later, trace⟩ := onward.trace
  rw [← trace, Trace.acts_append] at mem
  have mem := (List.mem_append.mp mem).resolve_left late
  obtain ⟨between, after, split⟩ := Trace.exists_split_of_mem_acts mem
  have split : q.trace = (p.trace ++ between) ++ (i, .accessed (.install target) x) :: after := by
    rw [← trace, split, List.append_assoc]
  obtain ⟨q', o, task, moment⟩ := Pool.moment run split
  obtain ⟨schedule', run'⟩ := moment.run
  have died : q'.trace.hasDied = true := by
    have died := (Pool.hasDied_trace before).mpr dead
    rw [Trace.hasDied] at died ⊢
    rw [moment.trace, List.any_append, died, Bool.true_or]
  rw [moment.move, ← moment.state, (Pool.hasDied_trace run').mp died]

namespace Housed

variable {d : Durable} {first rest : List Choice} {w₁ w : Housed} {i : Nat}

theorem Prepares.exists_granted (prepares : w₁.Prepares i) (onward : w₁.pool.Onward w.pool) :
    ∃ edge, .accessed (.install .preparingStorage) (.ok edge) ∈ w.pool.trace.acts i := by
  obtain ⟨e, mem, installs⟩ := List.mem_filterMap.mp prepares.granted
  obtain ⟨edge, rfl⟩ := Act.installs?_eq_some_iff.mp installs
  exact ⟨edge, (onward.acts i).subset mem⟩

/-- A storage that can be opened is made ready for whoever asks before it is stopped, and for nobody
else. -/
theorem exists_takes_prepareStorage (openable : d.Openable) (unstopped : d.slot ≠ .stopped)
    {schedule : List Choice} (follow : ({ storage := d } : Housed).follow? schedule = some w)
    {x : Except StorageError Unit}
    (heard : .answered .prepareStorage (some x) ∈ w.pool.trace.acts i) :
    ∃ before w₂, Takes d schedule i .prepareStorage before w₂ ∧
      (x = .ok () ∧ ¬ Stops d before ∨ x = .error .stopped ∧ Stops d before) := by
  obtain ⟨before, w₂, takes, made⟩ := exists_takes rfl follow (.inr (Trace.mem_of_mem_acts heard))
  have openable := (steady_of_follow openable unstopped takes.follow).sound.openable
  refine ⟨before, w₂, takes, ?_⟩
  rw [← stopped_iff unstopped takes.follow, made, openable.prepare]
  by_cases stopped : w₂.storage.slot = .stopped <;> simp [stopped]

/-- A replica dies under a preparation, whose storage can be opened. From there on the preparation
can always go on to its end by itself. It ends terminated if the storage had not been stopped when
it took up the call of the preparation; but if it had been, the preparation ends with that failure
of the storage. -/
theorem prepare_interrupted (openable : d.Openable) (unstopped : d.slot ≠ .stopped)
    (follow₁ : ({ storage := d } : Housed).follow? first = some w₁) (prepares : w₁.Prepares i)
    (dead : w₁.pool.shared.state = .dead) (follow : w₁.follow? rest = some w) :
    (∃ w' outcome, Reaches i w w' ∧ w'.pool.Ended i .prepare outcome) ∧
      ∀ outcome, w.pool.Ended i .prepare outcome →
        ∃ before w₂, Takes d (first ++ rest) i .prepareStorage before w₂ ∧
          (¬ Stops d before → outcome = .error .terminated) ∧
          (Stops d before → outcome = .error (.storageInitialization .stopped)) := by
  have follows : ({ storage := d } : Housed).follow? (first ++ rest) = some w :=
    (follow?_append follow₁).trans follow
  have steady := steady_of_follow openable unstopped follows
  have onward := onward_of_follow follow
  constructor
  · obtain ⟨⟨_, task⟩, hi, rfl⟩ := Option.map_eq_some_iff.mp prepares.operation
    obtain ⟨task', hi'⟩ := onward.tasks i _ task hi
    exact steady.completes hi'
  · intro outcome ended
    obtain ⟨schedule, run⟩ := steady.sound.run
    obtain ⟨r, walk, told⟩ := Hearing.governs.ended run ended
    have tells := told rfl outcome rfl
    have behind := Hearing.behind_of_walk walk
    cases r with
    | out refusal =>
      obtain ⟨edge, mem⟩ := prepares.exists_granted onward
      exact (behind edge mem).elim
    | granted | ready => exact tells.elim
    | failed e =>
      obtain ⟨before, w₂, takes, ⟨⟨⟩, -⟩ | ⟨⟨⟩, stops⟩⟩ :=
        exists_takes_prepareStorage openable unstopped follows behind
      exact ⟨before, w₂, takes, fun unstopped => (unstopped stops).elim, fun _ => tells⟩
    | asked x =>
      -- The request came after the death, so it was refused for that.
      obtain ⟨schedule₁, run₁⟩ := (steady_of_follow openable unstopped follow₁).sound.run
      obtain rfl : x = .error ⟨.dead, .storagePrepared⟩ :=
        Pool.answered_dead run₁ dead run onward (fun mem => prepares.unasked _ mem rfl) behind.2
      obtain ⟨before, w₂, takes, ⟨-, unstopped⟩ | ⟨⟨⟩, -⟩⟩ :=
        exists_takes_prepareStorage openable unstopped follows behind.1
      exact ⟨before, w₂, takes, fun _ => tells, fun stops => (unstopped stops).elim⟩

namespace Choice

/-- Lets a task take some steps until it has installed a state, which is made known. -/
def noted (i n : Nat) (s : State) : List Choice :=
  List.replicate n (.advance i) ++ [.answer i (.notice (.installed s)) (some ())]

/-- Leadership is lost before it was held, and the replica is torn down. -/
def tearsDown (i : Nat) : List Choice :=
  .begin (.stepDown none) :: noted i 5 .dead ++ List.replicate 8 (.advance i) ++
    [.take i, .hear i] ++ List.replicate 3 (.advance i) ++ [.answer i .shutdown (some ())]

/-- The replica is torn down once the storage has taken up the call of a preparation. -/
def interrupted : List Choice :=
  .begin .prepare :: noted 0 3 .preparingStorage ++ [.advance 0, .take 0] ++ tearsDown 1

/-- The replica is torn down before a preparation gets to its storage. -/
def forestalled : List Choice :=
  .begin .prepare :: List.replicate 3 (.advance 0) ++ tearsDown 1

end Choice

/-- A preparation ends terminated, and its storage had not been stopped when it took up the call. -/
theorem prepare_interrupted_of_taken :
    ∃ w₁ w, ({ storage := .inMemory } : Housed).follow? Choice.interrupted = some w₁ ∧
      w₁.Prepares 0 ∧ w₁.pool.shared.state = .dead ∧ .shutdown ∈ w₁.pool.trace.calls ∧
      w₁.follow? [.hear 0, .advance 0] = some w ∧ w.pool.Ended 0 .prepare (.error .terminated) ∧
      ∃ before w₂, Takes .inMemory (Choice.interrupted ++ [.hear 0, .advance 0]) 0 .prepareStorage
        before w₂ ∧ ¬ Stops .inMemory before := by
  have seen : ∃ w₁, w₁ ∈ ({ storage := .inMemory } : Housed).follow? Choice.interrupted ∧
      w₁.Prepares 0 ∧ w₁.pool.shared.state = .dead ∧ .shutdown ∈ w₁.pool.trace.calls ∧
      ∃ w, w ∈ w₁.follow? [.hear 0, .advance 0] ∧
        w.pool.Ended 0 .prepare (.error .terminated) := by
    decide +kernel
  obtain ⟨w₁, follow₁, prepares, dead, signalled, w, follow, ended⟩ := seen
  obtain ⟨-, ends⟩ :=
    prepare_interrupted (fun _ => ⟨.empty, rfl⟩) (by decide) follow₁ prepares dead follow
  obtain ⟨before, w₂, takes, -, stopped⟩ := ends _ ended
  exact ⟨w₁, w, follow₁, prepares, dead, signalled, follow, ended, before, w₂, takes,
    fun stops => by cases stopped stops⟩

/-- A replica dies and is torn down as soon as it prepares; the preparation is not told that it was
terminated, but that its storage has failed. -/
theorem fails_if_forestalled :
    ∃ w₁, w₁ ∈ ({ storage := .inMemory } : Housed).follow? Choice.forestalled ∧ w₁.Prepares 0 ∧
      w₁.pool.shared.state = .dead ∧ .shutdown ∈ w₁.pool.trace.calls ∧
      ∃ w, w ∈ w₁.follow? (.answer 0 (.notice (.installed .preparingStorage)) (some ()) ::
          [.advance 0, .take 0, .hear 0] ++ Choice.noted 0 5 .dead ++ List.replicate 2 (.advance 0)) ∧
        w.pool.Ended 0 .prepare (.error (.storageInitialization .stopped)) := by
  decide +kernel

end Housed

end Tenure.Lifecycle
