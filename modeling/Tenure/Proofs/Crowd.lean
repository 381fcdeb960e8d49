import Mathlib.Logic.Function.Basic
import Tenure.Gauge
import Tenure.Proofs.Alone
import Tenure.Proofs.Shunning

/-!
# Threads and mutexes

Any number of threads use one replica, each doing one job after another. The state, the slot and the
reference to the driver are each behind a mutex, which a thread takes, holds for one access and
gives back; the two locks it takes and gives back where its program says. A thread that wants a
mutex waits until it is free.

Mutexes are taken in one order: the lock on grants, the driver's lock, then that of a variable. So
of the threads that are not done there is always one that can go on.
-/
namespace Tenure.Lifecycle

open Program

/-! ## Mutexes -/

/-- The variables that have a mutex. The flags are atomic and need none. -/
inductive Guarded where
  | state
  | slot
  | driver
  deriving DecidableEq

inductive Mutex where
  | lock (l : Lock)
  | guard (v : Guarded)
  deriving DecidableEq

namespace Mutex

/-- The place of a mutex in the order in which they are taken. -/
def rank : Mutex → Nat
  | lock .grants => 0
  | lock .driver => 1
  | guard _ => 2

theorem rank_le (m : Mutex) : m.rank ≤ 2 := by
  cases m with
  | guard => exact Nat.le_refl _
  | lock l => cases l <;> decide

end Mutex

/-- The variable whose mutex is held for as long as an access takes. -/
def Access.guarded? : Access → Option Guarded
  | readState | install _ => some .state
  | replaceSlot _ | withdraw _ _ | readSlot | takeSlot => some .slot
  | readDriver | publishDriver _ => some .driver
  | readAcknowledged | setAcknowledged _ | claimTeardown | lock _ | unlock _ => none

/-- The mutex that has to be free before an access is made. -/
def Access.wants? : Access → Option Mutex
  | lock l => some (.lock l)
  | a => a.guarded?.map .guard

theorem Access.wants?_of_guarded {a : Access} {v : Guarded} (h : a.guarded? = some v) :
    a.wants? = some (.guard v) := by
  cases a <;> cases h <;> rfl

/-! ## Jobs -/

/-- Looks at the state and the registration, one after the other. -/
def gauges : Program Snapshot := do
  let state ← touch .readState
  let registered ← touch .readAcknowledged
  return ⟨state, registered⟩

inductive Job where
  | operate (operation : Operation)
  | gauges

def Job.program : Job → Program Outcome
  | operate operation => operation.program
  | gauges => do
    discard Lifecycle.gauges
    return .ok ()

/-! ## Threads -/

/-- How far a thread has come with its job. -/
inductive Headway where
  | running (rest : Program Outcome)
  /-- A collaborator was asked and has not returned yet. -/
  | calling (c : Call) (next : Option c.Answer → Program Outcome)
  /-- It has taken the mutex of a variable, for an access. -/
  | inside (v : Guarded) (a : Access) (next : a.Answer → Program Outcome)
  /-- It has made the access, and is to give the mutex back. -/
  | leaving (v : Guarded) (rest : Program Outcome)

structure Thread where
  /-- The jobs that it has not begun. -/
  todo : List Job
  stage : Headway := .running (.done (.ok ()))

/-- The thread that has each mutex. -/
abbrev Owners := Mutex → Option Nat

namespace Thread

def isOver : Thread → Bool
  | ⟨[], .running (.done _)⟩ => true
  | _ => false

/-- The mutex that a thread is about to take. -/
def wants? (t : Thread) : Option Mutex :=
  match t.stage with
  | .running (.access a _) => a.wants?
  | _ => none

/-- The next step of thread `i`. There is none while it waits for a mutex or for a collaborator,
and none once it is over. -/
def advance? (i : Nat) (s : Shared) (owner : Owners) (t : Thread) :
    Option (Shared × Owners × Thread) :=
  match t.stage with
  | .running (.done _) =>
    match t.todo with
    | job :: todo => some (s, owner, ⟨todo, .running job.program⟩)
    | [] => none
  | .running .unwind => none
  | .running (.note _ next) => some (s, owner, ⟨t.todo, .running next⟩)
  | .running (.call c next) => some (s, owner, ⟨t.todo, .calling c next⟩)
  | .running (.access (.lock l) next) =>
    if owner (.lock l) = none then
      some (s, Function.update owner (.lock l) (some i), ⟨t.todo, .running (next ())⟩)
    else none
  | .running (.access (.unlock l) next) =>
    some (s, Function.update owner (.lock l) none, ⟨t.todo, .running (next ())⟩)
  | .running (.access a next) =>
    match a.guarded? with
    | some v =>
      if owner (.guard v) = none then
        some (s, Function.update owner (.guard v) (some i), ⟨t.todo, .inside v a next⟩)
      else none
    | none => (a.apply s).map fun (x, s) => (s, owner, ⟨t.todo, .running (next x)⟩)
  | .calling _ _ => none
  | .inside v a next => (a.apply s).map fun (x, s) => (s, owner, ⟨t.todo, .leaving v (next x)⟩)
  | .leaving v rest => some (s, Function.update owner (.guard v) none, ⟨t.todo, .running rest⟩)

/-- What a thread goes on with when a collaborator returns. -/
def answer? (c : Call) (x : c.Answer) (t : Thread) : Option Thread :=
  match t.stage with
  | .calling c' next =>
    if h : c = c' then some ⟨t.todo, .running (next (some (h ▸ x)))⟩ else none
  | _ => none

end Thread

/-! ## Crowds -/

structure Crowd where
  shared : Shared := {}
  owner : Owners := fun _ => none
  threads : List Thread

namespace Crowd

inductive Choice where
  | advance (i : Nat)
  /-- A collaborator returns. -/
  | answer (i : Nat) (c : Call) (x : c.Answer)

/-- Threads with their jobs, at a fresh replica. -/
def ofJobs (jobs : List (List Job)) : Crowd := { threads := jobs.map fun todo => { todo } }

def step? (q : Crowd) : Choice → Option Crowd
  | .advance i =>
    q.threads[i]?.bind fun t =>
      (t.advance? i q.shared q.owner).map fun (shared, owner, t) =>
        { shared, owner, threads := q.threads.set i t }
  | .answer i c x =>
    q.threads[i]?.bind fun t =>
      (t.answer? c x).map fun t => { q with threads := q.threads.set i t }

def follow? (q : Crowd) : List Choice → Option Crowd
  | [] => some q
  | choice :: rest => (q.step? choice).bind fun q => q.follow? rest

/-! ## A schedule -/

namespace Choice

/-- A thread takes some steps to a call, which then returns. -/
def upTo (i n : Nat) (c : Call) (x : c.Answer) : List Choice :=
  List.replicate n (.advance i) ++ [.answer i c x]

/-- One thread takes the lead and is about to look at the state, to start the driver. Another steps
down, and is to stop the driver. A third is looking at the state. -/
def crowded : List Choice :=
  upTo 0 6 (.notice (.installed .preparingStorage)) () ++ upTo 0 1 .prepareStorage (.ok ()) ++
    upTo 0 5 (.notice (.installed .storagePrepared)) () ++
    upTo 0 10 (.notice (.installed .leaderAwaitingRegistration)) () ++
    upTo 0 2 .repairStorage (.ok ()) ++ upTo 0 1 .readFrameworkId (.ok none) ++
    upTo 0 2 (.createDriver none) ⟨0⟩ ++ upTo 0 4 (.arm .registration) () ++
    upTo 0 1 (.arm .failover) () ++ [.advance 0] ++
    upTo 1 8 (.notice (.installed .dead)) () ++ upTo 1 5 (.leave ⟨"a"⟩) (.ok ()) ++
    [.advance 1, .advance 2, .advance 2]

end Choice

end Crowd

/-! ## Jobs by their stances -/

theorem Job.survives (job : Job) : Survives (fun _ r => r.AtRest) {} job.program := by
  cases job with
  | operate operation => exact operation.survives
  | gauges =>
    refine .touch fun _ _ => ⟨⟨trivial, trivial⟩, .touch fun _ _ => ⟨⟨trivial, trivial⟩, ?_⟩⟩
    exact ⟨rfl, rfl, rfl⟩

/-- What is left of a job asks for the lock on grants at once, if nothing was done yet, or not at
all. -/
def Begins (r : Stance) (p : Program Outcome) : Prop :=
  p.Shuns .grants ∨
    r = {} ∧ ∃ next, p = .access (.lock .grants) next ∧ ∀ x, (next x).Shuns .grants

theorem Job.begins (job : Job) : Begins {} job.program := by
  cases job with
  | operate operation => exact operation.shuns.imp_right fun first => ⟨rfl, first⟩
  | gauges => exact .inl (.touch nofun fun _ => .touch nofun fun _ => trivial)

theorem Begins.shuns {r : Stance} {a : Access} {next : a.Answer → Program Outcome}
    (h : Begins r (.access a next)) (x : a.Answer) : (next x).Shuns .grants := by
  obtain shuns | ⟨-, _, eq, shuns⟩ := h
  · exact shuns.2 x
  · cases eq
    exact shuns x

/-- Whoever asks for the lock on grants has no lock yet. -/
theorem Begins.eq_bare {r : Stance} {next : Unit → Program Outcome}
    (h : Begins r (.access (.lock .grants) next)) : r = {} := by
  obtain shuns | ⟨rfl, _⟩ := h
  · exact (shuns.1 rfl).elim
  · rfl

/-! ## Jobs whose calls return -/

theorem Job.completes (job : Job) : Completes job.program := by
  cases job with
  | operate operation => exact operation.follows.completes
  | gauges => exact fun _ _ _ _ => trivial

/-! ## Steps of a thread -/

namespace Thread

/-- What thread `i` does in one step. -/
inductive Moves (i : Nat) (s : Shared) (owner : Owners) :
    Thread → Shared → Owners → Thread → Prop where
  | begin {job : Job} {todo : List Job} {outcome : Outcome} :
      Moves i s owner ⟨job :: todo, .running (.done outcome)⟩ s owner ⟨todo, .running job.program⟩
  | note {todo : List Job} {entry : Log.Entry} {next : Program Outcome} :
      Moves i s owner ⟨todo, .running (.note entry next)⟩ s owner ⟨todo, .running next⟩
  | call {todo : List Job} {c : Call} {next : Option c.Answer → Program Outcome} :
      Moves i s owner ⟨todo, .running (.call c next)⟩ s owner ⟨todo, .calling c next⟩
  | lock {todo : List Job} {l : Lock} {next : Unit → Program Outcome}
      (free : owner (.lock l) = none) :
      Moves i s owner ⟨todo, .running (.access (.lock l) next)⟩ s
        (Function.update owner (.lock l) (some i)) ⟨todo, .running (next ())⟩
  | unlock {todo : List Job} {l : Lock} {next : Unit → Program Outcome} :
      Moves i s owner ⟨todo, .running (.access (.unlock l) next)⟩ s
        (Function.update owner (.lock l) none) ⟨todo, .running (next ())⟩
  | enter {todo : List Job} {v : Guarded} {a : Access} {next : a.Answer → Program Outcome}
      (guarded : a.guarded? = some v) (free : owner (.guard v) = none) :
      Moves i s owner ⟨todo, .running (.access a next)⟩ s
        (Function.update owner (.guard v) (some i)) ⟨todo, .inside v a next⟩
  | touch {todo : List Job} {a : Access} {next : a.Answer → Program Outcome} {x : a.Answer}
      {s' : Shared} (bare : a.wants? = none) (other : ∀ l, a ≠ .unlock l)
      (apply : a.apply s = some (x, s')) :
      Moves i s owner ⟨todo, .running (.access a next)⟩ s' owner ⟨todo, .running (next x)⟩
  | within {todo : List Job} {v : Guarded} {a : Access} {next : a.Answer → Program Outcome}
      {x : a.Answer} {s' : Shared} (apply : a.apply s = some (x, s')) :
      Moves i s owner ⟨todo, .inside v a next⟩ s' owner ⟨todo, .leaving v (next x)⟩
  | leave {todo : List Job} {v : Guarded} {rest : Program Outcome} :
      Moves i s owner ⟨todo, .leaving v rest⟩ s (Function.update owner (.guard v) none)
        ⟨todo, .running rest⟩

variable {i : Nat} {s s' : Shared} {owner owner' : Owners} {t t' : Thread} {r : Stance}

theorem moves_of_advance? (h : t.advance? i s owner = some (s', owner', t')) :
    Moves i s owner t s' owner' t' := by
  obtain ⟨todo, stage⟩ := t
  cases stage with
  | running rest =>
    cases rest with
    | done outcome =>
      cases todo with
      | nil => cases h
      | cons job todo => cases h; exact .begin
    | unwind => cases h
    | note => cases h; exact .note
    | call => cases h; exact .call
    | access a next =>
      cases a with
      | lock l =>
        simp only [advance?] at h
        split at h
        · next free => cases h; exact .lock free
        · cases h
      | unlock l => cases h; exact .unlock
      | readAcknowledged | setAcknowledged | claimTeardown =>
        cases h
        exact .touch rfl nofun rfl
      | _ =>
        simp only [advance?, Access.guarded?] at h
        split at h
        · next free => cases h; exact .enter rfl free
        · cases h
  | calling c next => cases h
  | inside v a next =>
    simp only [advance?, Option.map_eq_some_iff, Prod.exists] at h
    obtain ⟨x, s', apply, h⟩ := h
    cases h
    exact .within apply
  | leaving v rest => cases h; exact .leave

end Thread

/-! ## What a thread has -/

namespace Headway

/-- What is left of the job. -/
def left : Headway → Program Outcome
  | running rest => rest
  | calling c next => .call c next
  | inside _ a next => .access a next
  | leaving _ rest => rest

/-- The variable whose mutex the thread has. -/
def guarded? : Headway → Option Guarded
  | inside v _ _ | leaving v _ => some v
  | _ => none

end Headway

namespace Thread

/-- Thread `i` has the locks of its stance and the mutex of the variable that it is at, and goes on
as its stance allows. -/
structure Sound (i : Nat) (owner : Owners) (t : Thread) (r : Stance) : Prop where
  locks (l : Lock) : owner (.lock l) = some i ↔ r.holds l = true
  guards (v : Guarded) : owner (.guard v) = some i ↔ t.stage.guarded? = some v
  survives : Survives (fun _ r => r.AtRest) r t.stage.left
  begins : Begins r t.stage.left
  completes : Completes t.stage.left
  inside {v : Guarded} {a : Access} {next : a.Answer → Program Outcome} :
    t.stage = .inside v a next → a.guarded? = some v

variable {i : Nat} {s s' : Shared} {owner owner' : Owners} {t t' : Thread} {r : Stance}

theorem Sound.start (free : ∀ m, owner m ≠ some i) {todo : List Job} :
    Sound i owner { todo } {} where
  locks l := ⟨fun own => (free _ own).elim, fun held => by cases l <;> cases held⟩
  guards v := ⟨fun own => (free _ own).elim, nofun⟩
  survives := ⟨rfl, rfl, rfl⟩
  begins := .inl trivial
  completes := trivial
  inside := nofun

/-- A thread whose mutexes are its own as before is as sound as before. -/
theorem Sound.stays (h : t.Sound i owner r) (same : ∀ m, owner' m = some i ↔ owner m = some i) :
    t.Sound i owner' r where
  locks l := (same _).trans (h.locks l)
  guards v := (same _).trans (h.guards v)
  survives := h.survives
  begins := h.begins
  completes := h.completes
  inside := h.inside

/-! ## Soundness from step to step -/

/-- The locks of a stance after an access. -/
theorem holds_after_lock (l k : Lock) :
    (r.after (.accessed (.lock l) ())).holds k = (decide (k = l) || r.holds k) := by
  rw [Stance.holds_after]
  cases l <;> cases k <;> rfl

theorem holds_after_unlock (l k : Lock) :
    (r.after (.accessed (.unlock l) ())).holds k = (!decide (k = l) && r.holds k) := by
  rw [Stance.holds_after]
  cases l <;> cases k <;> rfl

theorem holds_after_other {a : Access} {x : a.Answer} (take : ∀ l, a ≠ .lock l)
    (give : ∀ l, a ≠ .unlock l) (l : Lock) : (r.after (.accessed a x)).holds l = r.holds l := by
  rw [Stance.holds_after]
  obtain eq | eq | same := Act.holds_cases (.accessed a x) l
  · cases eq; exact (take l rfl).elim
  · cases eq; exact (give l rfl).elim
  · exact same _

theorem update_lock_guard {l : Lock} {x : Option Nat} {v : Guarded} :
    Function.update owner (.lock l) x (.guard v) = owner (.guard v) := by
  simp

theorem update_guard_lock {v : Guarded} {x : Option Nat} {l : Lock} :
    Function.update owner (.guard v) x (.lock l) = owner (.lock l) := by
  simp

theorem Sound.moves (h : t.Sound i owner r) (move : Moves i s owner t s' owner' t') :
    ∃ r', t'.Sound i owner' r' := by
  cases move with
  | @begin job todo outcome =>
    -- The job before has ended, and has left no lock behind.
    have rests : r.AtRest := h.survives
    have none (l : Lock) : r.holds l = false := by
      cases l with
      | grants => exact rests.grants
      | driver => exact rests.driver
    refine ⟨{}, fun l => ?_, h.guards, job.survives, job.begins, job.completes, nofun⟩
    rw [h.locks l, none l]
    cases l <;> simp [Stance.holds]
  | note =>
    exact ⟨r, h.locks, h.guards, h.survives, h.begins.imp_right nofun, h.completes, nofun⟩
  | call => exact ⟨r, h.locks, h.guards, h.survives, h.begins, h.completes, nofun⟩
  | @lock _ l next free =>
    have gives := Access.gives_lock l
    refine ⟨_, fun k => ?_, fun v => ?_, (h.survives () gives).2, .inl (h.begins.shuns ()),
      h.completes () gives, nofun⟩
    · rw [holds_after_lock, Bool.or_eq_true, decide_eq_true_iff, ← h.locks k]
      by_cases eq : k = l <;> simp [eq]
    · rw [update_lock_guard]
      exact h.guards v
  | @unlock _ l next =>
    have gives : (Access.unlock l).Gives () := ⟨{}, _, rfl⟩
    refine ⟨_, fun k => ?_, fun v => ?_, (h.survives () gives).2, .inl (h.begins.shuns ()),
      h.completes () gives, nofun⟩
    · rw [holds_after_unlock, Bool.and_eq_true, Bool.not_eq_true', decide_eq_false_iff_not,
        ← h.locks k]
      by_cases eq : k = l <;> simp [eq]
    · rw [update_lock_guard]
      exact h.guards v
  | @enter _ v a next guarded free =>
    refine ⟨r, fun k => ?_, fun v' => ?_, h.survives, h.begins, h.completes, ?_⟩
    · rw [update_guard_lock]
      exact h.locks k
    · by_cases eq : v' = v
      · simp [eq, Headway.guarded?]
      · simpa [eq, Ne.symm eq, Headway.guarded?] using h.guards v'
    · rintro _ _ _ ⟨⟩
      exact guarded
  | @touch _ a next x _ bare other apply =>
    have gives : a.Gives x := ⟨_, _, apply⟩
    refine ⟨_, fun k => ?_, h.guards, (h.survives x gives).2, .inl (h.begins.shuns x),
      h.completes x gives, nofun⟩
    rw [holds_after_other (fun l eq => by cases eq; cases bare) other, h.locks k]
  | @within _ v a next x _ apply =>
    have gives : a.Gives x := ⟨_, _, apply⟩
    have guarded := h.inside rfl
    refine ⟨_, fun k => ?_, h.guards, (h.survives x gives).2, .inl (h.begins.shuns x),
      h.completes x gives, nofun⟩
    rw [holds_after_other (fun l eq => by cases eq; cases guarded)
      (fun l eq => by cases eq; cases guarded), h.locks k]
  | @leave _ v rest =>
    refine ⟨r, fun k => ?_, fun v' => ?_, h.survives, h.begins, h.completes, nofun⟩
    · rw [update_guard_lock]
      exact h.locks k
    · by_cases eq : v' = v
      · simp [eq, Headway.guarded?]
      · simpa [eq, Ne.symm eq, Headway.guarded?] using h.guards v'

/-- A thread takes a mutex that is free, and gives back one of its own. -/
theorem Sound.owner_iff (h : t.Sound i owner r) (move : Moves i s owner t s' owner' t') {j : Nat}
    (other : j ≠ i) (m : Mutex) : owner' m = some j ↔ owner m = some j := by
  have keep {k : Mutex} (free : owner k = none ∨ owner k = some i) (x : Option Nat)
      (own : x = none ∨ x = some i) : Function.update owner k x m = some j ↔ owner m = some j := by
    by_cases eq : m = k
    · subst eq
      rcases free with free | free <;> rcases own with rfl | rfl <;> simp [free, Ne.symm other]
    · rw [Function.update_of_ne eq]
  cases move with
  | begin | note | call | touch | within => rfl
  | lock free => exact keep (.inl free) _ (.inr rfl)
  | enter _ free => exact keep (.inl free) _ (.inr rfl)
  | @unlock _ l next =>
    have held := (h.survives () ⟨{}, _, rfl⟩).1.1
    exact keep (.inr ((h.locks l).mpr held)) _ (.inl rfl)
  | leave => exact keep (.inr ((h.guards _).mpr rfl)) _ (.inl rfl)

/-- An answer comes to a thread that has called. -/
theorem Sound.answered {c : Call} {x : c.Answer} (h : t.Sound i owner r)
    (answer : t.answer? c x = some t') : ∃ r', t'.Sound i owner r' := by
  obtain ⟨todo, stage⟩ := t
  cases stage with
  | running | inside | leaving => cases answer
  | calling c' next =>
    simp only [answer?] at answer
    split at answer
    · next eq =>
      subst eq
      cases answer
      refine ⟨_, fun l => ?_, h.guards, h.survives.2 _ (.inl rfl), ?_, h.completes x, nofun⟩
      · rw [Stance.holds_after, Stance.holds_after]
        cases l <;> exact h.locks _
      · exact h.begins.imp (fun shuns => shuns _) nofun
    · cases answer

/-! ## What a thread waits for -/

/-- Whether a thread can go on, or whom it has called can return. -/
def CanMove (i : Nat) (s : Shared) (owner : Owners) (t : Thread) : Prop :=
  (∃ x, t.advance? i s owner = some x) ∨ ∃ c x t', t.answer? c x = some t'

/-- Whatever is asked, there is something to return. -/
theorem nonempty_answer (c : Call) : Nonempty c.Answer := by
  cases c with
  | prepareStorage | repairStorage | stopStorage | advertise | leave => exact ⟨.ok ()⟩
  | readFrameworkId => exact ⟨.ok none⟩
  | createDriver => exact ⟨⟨0⟩⟩
  | startDriver | joinDriver | stopDriver => exact ⟨.running⟩
  | arm | post | shutdown | notice => exact ⟨()⟩

theorem advance?_guarded {todo : List Job} {v : Guarded} {a : Access}
    {next : a.Answer → Program Outcome} (guarded : a.guarded? = some v) :
    advance? i s owner ⟨todo, .running (.access a next)⟩ =
      if owner (.guard v) = none then
        some (s, Function.update owner (.guard v) (some i), ⟨todo, .inside v a next⟩)
      else none := by
  cases a <;> cases guarded <;> rfl

/-- What takes no lock has an answer. -/
theorem exists_apply {a : Access} (other : ∀ l, a ≠ .lock l) : ∃ x, a.apply s = some x :=
  Option.ne_none_iff_exists'.mp fun none =>
    have ⟨l, eq, _⟩ := Access.apply_eq_none_iff.mp none
    other l eq

theorem left_of_wants {l : Lock} (wants : t.wants? = some (.lock l)) :
    ∃ next, t.stage.left = .access (.lock l) next := by
  obtain ⟨todo, stage⟩ := t
  cases stage with
  | calling | inside | leaving => cases wants
  | running rest =>
    cases rest with
    | done | unwind | note | call => cases wants
    | access a next =>
      cases a with
      | lock l' => cases wants; exact ⟨next, rfl⟩
      | _ => cases wants

/-- Whoever is about to take a lock does not have it. -/
theorem Sound.free_of_wants (h : t.Sound i owner r) {l : Lock} (wants : t.wants? = some (.lock l)) :
    r.holds l = false := by
  obtain ⟨next, left⟩ := left_of_wants wants
  have survives := h.survives
  rw [left] at survives
  exact (survives () (Access.gives_lock l)).1.1

/-- Whoever is about to take the lock on grants has done nothing yet. -/
theorem Sound.bare_of_wants (h : t.Sound i owner r) (wants : t.wants? = some (.lock .grants)) :
    r = {} := by
  obtain ⟨next, left⟩ := left_of_wants wants
  have begins := h.begins
  rw [left] at begins
  exact begins.eq_bare

/-- A thread takes only what comes after all that it has. -/
theorem Sound.rank_lt (h : t.Sound i owner r) {m m' : Mutex} (wants : t.wants? = some m)
    (own : owner m' = some i) : m'.rank < m.rank := by
  cases m' with
  | guard v =>
    have guarded := (h.guards v).mp own
    obtain ⟨todo, stage⟩ := t
    cases stage with
    | running | calling => cases guarded
    | inside | leaving => cases wants
  | lock l' =>
    have held := (h.locks l').mp own
    cases m with
    | guard v => cases l' <;> simp [Mutex.rank]
    | lock l =>
      cases l with
      | grants =>
        rw [h.bare_of_wants wants] at held
        cases l' <;> cases held
      | driver =>
        cases l' with
        | grants => decide
        | driver => cases (h.free_of_wants wants).symm.trans held

/-- A thread that is not over waits for a mutex, or for nothing. -/
theorem Sound.canMove_or (h : t.Sound i owner r) (under_way : t.isOver = false) :
    t.CanMove i s owner ∨ ∃ m j, t.wants? = some m ∧ owner m = some j := by
  obtain ⟨todo, stage⟩ := t
  cases stage with
  | calling c next =>
    obtain ⟨x⟩ := nonempty_answer c
    exact .inl (.inr ⟨c, x, ⟨todo, .running (next (some x))⟩, by simp [answer?]⟩)
  | leaving v rest => exact .inl (.inl ⟨_, rfl⟩)
  | inside v a next =>
    have guarded := h.inside rfl
    obtain ⟨x, apply⟩ := exists_apply (s := s) fun l (eq : a = .lock l) => by
      cases eq
      cases guarded
    exact .inl (.inl ⟨_, congrArg (Option.map _) apply⟩)
  | running rest =>
    cases rest with
    | done outcome =>
      cases todo with
      | nil => cases under_way
      | cons => exact .inl (.inl ⟨_, rfl⟩)
    | unwind => exact h.completes.elim
    | note | call => exact .inl (.inl ⟨_, rfl⟩)
    | access a next =>
      cases guarded : a.guarded? with
      | some v =>
        cases owned : owner (.guard v) with
        | none => exact .inl (.inl ⟨_, (advance?_guarded guarded).trans (if_pos owned)⟩)
        | some j => exact .inr ⟨.guard v, j, Access.wants?_of_guarded guarded, owned⟩
      | none =>
        cases a with
        | lock l =>
          cases owned : owner (.lock l) with
          | none => exact .inl (.inl ⟨_, if_pos owned⟩)
          | some j => exact .inr ⟨.lock l, j, rfl, owned⟩
        | unlock | readAcknowledged | setAcknowledged | claimTeardown => exact .inl (.inl ⟨_, rfl⟩)
        | _ => cases guarded

end Thread

/-! ## Crowds that are sound -/

namespace Crowd

variable {q q' : Crowd}

/-- Every thread is sound, and every mutex that is held is held by a thread. -/
structure Sound (q : Crowd) : Prop where
  threads {i : Nat} {t : Thread} : q.threads[i]? = some t → ∃ r, t.Sound i q.owner r
  owners {m : Mutex} {i : Nat} : q.owner m = some i → i < q.threads.length

theorem sound_ofJobs (jobs : List (List Job)) : (ofJobs jobs).Sound where
  threads {i t} h := by
    obtain ⟨todo, _, rfl⟩ := List.mem_map.mp (List.mem_of_getElem? h)
    exact ⟨{}, .start fun _ (own : none = some i) => by cases own⟩
  owners := nofun

/-- A thread goes on, and nobody else takes or gives back a mutex. -/
theorem Sound.put (h : q.Sound) {i : Nat} {t t' : Thread} (hi : q.threads[i]? = some t)
    {shared : Shared} {owner : Owners} (sound : ∃ r, t'.Sound i owner r)
    (others : ∀ j, j ≠ i → ∀ m, owner m = some j ↔ q.owner m = some j) :
    Sound { shared, owner, threads := q.threads.set i t' } where
  threads := by
    intro j u hj
    by_cases eq : j = i
    · subst eq
      rw [List.getElem?_set_self (List.getElem?_eq_some_iff.mp hi).1] at hj
      cases hj
      exact sound
    · rw [List.getElem?_set_ne (Ne.symm eq)] at hj
      obtain ⟨r', sound'⟩ := h.threads hj
      exact ⟨r', sound'.stays (others j eq)⟩
  owners := by
    intro m j own
    rw [List.length_set]
    by_cases eq : j = i
    · exact eq ▸ (List.getElem?_eq_some_iff.mp hi).1
    · exact h.owners ((others j eq m).mp own)

theorem Sound.step {choice : Choice} (h : q.Sound) (step : q.step? choice = some q') :
    q'.Sound := by
  cases choice with
  | advance i =>
    simp only [step?, Option.bind_eq_some_iff, Option.map_eq_some_iff, Prod.exists] at step
    obtain ⟨t, hi, s', owner', t', advance, rfl⟩ := step
    obtain ⟨r, sound⟩ := h.threads hi
    have move := Thread.moves_of_advance? advance
    exact h.put hi (sound.moves move) fun j other => sound.owner_iff move other
  | answer i c x =>
    simp only [step?, Option.bind_eq_some_iff, Option.map_eq_some_iff] at step
    obtain ⟨t, hi, t', answer, rfl⟩ := step
    obtain ⟨r, sound⟩ := h.threads hi
    exact h.put hi (sound.answered answer) fun _ _ _ => .rfl

theorem Sound.follow {schedule : List Choice} (h : q.Sound)
    (follow : q.follow? schedule = some q') : q'.Sound := by
  induction schedule generalizing q with
  | nil => cases follow; exact h
  | cons choice rest ih =>
    obtain ⟨q₁, step, follow⟩ := Option.bind_eq_some_iff.mp follow
    exact ih (h.step step) follow

/-! ## There is always one that can go on -/

/-- A thread can take its next step. -/
def CanMove (q : Crowd) : Prop := ∃ choice q', q.step? choice = some q'

theorem canMove_of_thread {i : Nat} {t : Thread} (hi : q.threads[i]? = some t)
    (move : t.CanMove i q.shared q.owner) : q.CanMove := by
  obtain ⟨x, advance⟩ | ⟨c, x, t', answer⟩ := move
  · exact ⟨.advance i, _, by simp only [step?, hi, Option.bind_some, advance]; rfl⟩
  · exact ⟨.answer i c x, _, by simp only [step?, hi, Option.bind_some, answer]; rfl⟩

/-- Where whoever is waited for can go on in the end, so can whoever waits. -/
theorem Sound.canMove_of (h : q.Sound) {i : Nat} {t : Thread} (hi : q.threads[i]? = some t)
    (under_way : t.isOver = false)
    (owned : ∀ m j, t.wants? = some m → q.owner m = some j → q.CanMove) : q.CanMove := by
  obtain ⟨r, sound⟩ := h.threads hi
  obtain move | ⟨m, j, wants, own⟩ := sound.canMove_or under_way
  · exact canMove_of_thread hi move
  · exact owned m j wants own

/-- A thread that is over has no mutex. -/
theorem not_isOver_of_owner {i : Nat} {t : Thread} {r : Stance} {m : Mutex}
    (sound : t.Sound i q.owner r) (own : q.owner m = some i) : t.isOver = false := by
  obtain ⟨todo, stage⟩ := t
  cases stage with
  | calling | inside | leaving => cases todo <;> rfl
  | running rest =>
    cases rest with
    | unwind | access | note | call => cases todo <;> rfl
    | done outcome =>
      have rests : r.AtRest := sound.survives
      cases m with
      | guard v => cases (sound.guards v).mp own
      | lock l =>
        have held := (sound.locks l).mp own
        cases l with
        | grants => cases rests.grants.symm.trans held
        | driver => cases rests.driver.symm.trans held

theorem Sound.owner_spec (h : q.Sound) {m : Mutex} {i : Nat} (own : q.owner m = some i) :
    ∃ t r, q.threads[i]? = some t ∧ t.Sound i q.owner r ∧ t.isOver = false := by
  have hi := List.getElem?_eq_getElem (h.owners own)
  obtain ⟨r, sound⟩ := h.threads hi
  exact ⟨_, r, hi, sound, not_isOver_of_owner sound own⟩

/-- Where a mutex is held there is a thread that can go on: whoever holds it, or who holds the one
that it waits for, which comes later in the order. -/
theorem Sound.canMove_of_owner (h : q.Sound) {m : Mutex} {i : Nat} (own : q.owner m = some i) :
    q.CanMove := by
  obtain ⟨t, r, hi, sound, under_way⟩ := h.owner_spec own
  refine h.canMove_of hi under_way fun m' j wants own' => ?_
  have later : m.rank < m'.rank := sound.rank_lt wants own
  exact h.canMove_of_owner own'
termination_by 2 - m.rank
decreasing_by
  have := m'.rank_le
  omega

/-! ## Never a deadlock -/

/-- Whatever threads do with a replica, and in whichever order they take the mutexes and give them
back: no thread is about to take a mutex that it has, as long as a thread is not over there is one
that can go on, and when all are over no mutex is held. -/
theorem never_deadlocks {jobs : List (List Job)} {schedule : List Choice}
    (run : (ofJobs jobs).follow? schedule = some q) :
    (∀ i t m, q.threads[i]? = some t → t.wants? = some m → q.owner m ≠ some i) ∧
      (∀ t ∈ q.threads, t.isOver = false → ∃ choice q', q.step? choice = some q') ∧
        ((∀ t ∈ q.threads, t.isOver = true) → ∀ m, q.owner m = none) := by
  have sound : q.Sound := (sound_ofJobs jobs).follow run
  refine ⟨fun i t m hi wants => ?_, fun t ht under_way => ?_, fun finished m => ?_⟩
  · obtain ⟨r, sound⟩ := sound.threads hi
    exact fun own => Nat.lt_irrefl _ (sound.rank_lt wants own)
  · obtain ⟨i, hi⟩ := List.getElem?_of_mem ht
    exact sound.canMove_of hi under_way fun m j _ own => sound.canMove_of_owner own
  · by_contra held
    obtain ⟨i, own⟩ := Option.ne_none_iff_exists'.mp held
    obtain ⟨t, r, hi, -, under_way⟩ := sound.owner_spec own
    cases (finished t (List.mem_of_getElem? hi)).symm.trans under_way

/-- The second thread waits for the first, and the first for the third, which goes on. -/
theorem goes_on_when_crowded :
    ∃ q, (ofJobs [[.operate .prepare, .operate (.lead ⟨"a"⟩)], [.operate (.stepDown none)],
        [.gauges]]).follow? Choice.crowded = some q ∧
      q.threads.map (·.wants?) = [some (.guard .state), some (.lock .driver), none] ∧
        q.owner (.lock .grants) = some 0 ∧ q.owner (.lock .driver) = some 0 ∧
          q.owner (.guard .state) = some 2 ∧ ∃ choice q', q.step? choice = some q' := by
  let look (q : Crowd) := (q.threads.map (·.wants?), q.owner (.lock .grants),
    q.owner (.lock .driver), q.owner (.guard .state), q.threads.map (·.isOver))
  have seen : ((ofJobs [[.operate .prepare, .operate (.lead ⟨"a"⟩)], [.operate (.stepDown none)],
      [.gauges]]).follow? Choice.crowded).map look =
        some ([some (.guard .state), some (.lock .driver), none], some 0, some 0, some 2,
          [false, false, false]) := by
    decide +kernel
  obtain ⟨q, run, seen⟩ := Option.map_eq_some_iff.mp seen
  simp only [look, Prod.mk.injEq] at seen
  obtain ⟨wants, grants, driver, state, finished⟩ := seen
  refine ⟨q, run, wants, grants, driver, state, ?_⟩
  have under_way : ∃ t ∈ q.threads, t.isOver = false := by
    have : false ∈ q.threads.map (·.isOver) := by rw [finished]; simp
    simpa using this
  obtain ⟨t, ht, under_way⟩ := under_way
  exact (never_deadlocks run).2.1 t ht under_way

end Crowd

end Tenure.Lifecycle
