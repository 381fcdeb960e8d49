import Tenure.Rehearsal.Stage

/-!
# A read is executed at most once

A storage runs reading work as often as it likes, and it may keep to itself how a run ended. What is
read from it is a value all the same only if the read was executed, once, and gave that value.

To say so, a read is watched: the read is seen when it is executed, and the storage when it has run
the work and when it reports. Watching changes nothing, and what is seen is one of two episodes: the
work is never run, or its first run executes the read and every later one succeeds without it.
-/
namespace Tenure.Storage

variable {m : Type → Type} {ν ρ α : Type}

/-! ## Watching a read -/

/-- What is seen of a read from outside. -/
inductive Sighting (α : Type) where
  | executed (result : Except StorageError α)
  /-- The storage has run the work. -/
  | ran (outcome : Except StorageError Unit)
  | reported (result : Except StorageError Unit)

namespace Sighting

def executions (seen : List (Sighting α)) : List (Except StorageError α) :=
  seen.filterMap fun
    | executed result => some result
    | _ => none

def runs (seen : List (Sighting α)) : List (Except StorageError Unit) :=
  seen.filterMap fun
    | ran outcome => some outcome
    | _ => none

def reports (seen : List (Sighting α)) : List (Except StorageError Unit) :=
  seen.filterMap fun
    | reported result => some result
    | _ => none

end Sighting

/-- Computations that keep in mind what has been seen so far. -/
abbrev Watched (α : Type) (m : Type → Type) := StateT (List (Sighting α)) m

def see [Monad m] (sighting : Sighting α) : Watched α m Unit := modify (· ++ [sighting])

/-- A read that is seen whenever it is executed. -/
def watchedRead [Monad m] (read : ν → m (Except StorageError α)) (view : ν) :
    Watched α m (Except StorageError α) := do
  let result ← read view
  see (.executed result)
  return result

/-- A storage that does as `plan` says, and is seen to run the work and to report. -/
def Plan.watched [Monad m] : Plan m ν (Except StorageError Unit) →
    Plan (Watched α m) ν (Except StorageError Unit)
  | .report result => .act (see (.reported result)) fun _ => .report result
  | .act effect next => .act (liftM effect) fun b => (next b).watched
  | .run view next =>
    .run view fun outcome => .act (see (.ran outcome)) fun _ => (next outcome).watched

/-- Reads a value under watch: the result, and all that was seen. -/
def watch [Monad m] (plan : Plan m ν (Except StorageError Unit))
    (read : ν → m (Except StorageError α)) : m (Except StorageError α × List (Sighting α)) :=
  (readOnce plan.watched (watchedRead read)).run []

/-! ## Episodes -/

/-- How a run of the work ends that executes a read with this result. -/
def outcome (result : Except StorageError α) : Except StorageError Unit := result.map fun _ => ()

/-- How a read goes. -/
inductive Episode (α : Type) where
  /-- The storage never runs the work. -/
  | idle (reported : Except StorageError Unit)
  /-- The storage runs the work, which executes the read, and then so many times again. -/
  | read (result : Except StorageError α) (again : Nat) (reported : Except StorageError Unit)

namespace Episode

def reported : Episode α → Except StorageError Unit
  | idle reported | read _ _ reported => reported

/-- What the reading has come to in the end. -/
def last : Episode α → Reading α
  | idle _ => .awaited
  | read result _ _ => .executed result.toOption

def result (e : Episode α) : Except StorageError α := e.last.conclude e.reported

def sightings : Episode α → List (Sighting α)
  | idle reported => [.reported reported]
  | read result again reported =>
    .executed result :: .ran (outcome result) ::
      (List.replicate again (.ran (.ok ())) ++ [.reported reported])

end Episode

/-- Follows a plan without a read, so that every run of the work succeeds: how often the work is
run, and what is reported. -/
def Plan.spare [Monad m] : Plan m ν ρ → m (Nat × ρ)
  | .report result => return (0, result)
  | .act effect next => do (next (← effect)).spare
  | .run _ next => do
    let (runs, result) ← (next (.ok ())).spare
    return (runs + 1, result)

/-- Follows a plan up to the first run of the work, executes the read there, and goes on without. -/
def Plan.episode [Monad m] (read : ν → m (Except StorageError α)) :
    Plan m ν (Except StorageError Unit) → m (Episode α)
  | .report result => return .idle result
  | .act effect next => do (next (← effect)).episode read
  | .run view next => do
    let result ← read view
    let (again, reported) ← (next (outcome result)).spare
    return .read result again reported

/-- The first run of the work executes the read. -/
theorem runOnce_awaited [Monad m] [LawfulMonad m] (read : m (Except StorageError α)) :
    Reading.awaited.runOnce read =
      (fun result => (outcome result, .executed result.toOption)) <$> read := by
  rw [map_eq_pure_bind]
  refine bind_congr fun result => ?_
  cases result <;> rfl

section Following

variable [Monad m] [LawfulMonad m] {read : ν → m (Except StorageError α)} {reading : Reading α}
  {seen : List (Sighting α)}

/-! ## Steps of a storage under watch -/

theorem follow_watched_report (result : Except StorageError Unit) :
    (reading.follow (watchedRead read) (Plan.report result).watched).run seen =
      pure ((result, reading), seen ++ [.reported result]) := by
  simp [Plan.watched, Reading.follow, see]

theorem follow_watched_act {β : Type} (effect : m β)
    (next : β → Plan m ν (Except StorageError Unit)) :
    (reading.follow (watchedRead read) (Plan.act effect next).watched).run seen =
      effect >>= fun b => (reading.follow (watchedRead read) (next b).watched).run seen := by
  simp [Plan.watched, Reading.follow]

section Run

variable (view : ν) (next : Except StorageError Unit → Plan m ν (Except StorageError Unit))

theorem follow_watched_run_awaited :
    (Reading.awaited.follow (watchedRead read) (Plan.run view next).watched).run seen =
      read view >>= fun result =>
        ((Reading.executed result.toOption).follow (watchedRead read)
          (next (outcome result)).watched).run
            (seen ++ [.executed result, .ran (outcome result)]) := by
  simp [Plan.watched, Reading.follow, runOnce_awaited, watchedRead, see]

/-- A later run does not. -/
theorem follow_watched_run_executed {value : Option α} :
    ((Reading.executed value).follow (watchedRead read) (Plan.run view next).watched).run seen =
      ((Reading.executed value).follow (watchedRead read) (next (.ok ())).watched).run
        (seen ++ [.ran (.ok ())]) := by
  simp [Plan.watched, Reading.follow, Reading.runOnce, see]

end Run

/-! ## What a storage does under watch -/

variable (plan : Plan m ν (Except StorageError Unit))

theorem fst_follow_watched :
    Prod.fst <$> (reading.follow (watchedRead read) plan.watched).run seen =
      reading.follow read plan := by
  induction plan generalizing reading seen with
  | report result => simp [follow_watched_report, Reading.follow]
  | act effect next ih => simp [follow_watched_act, Reading.follow, ih]
  | run view next ih =>
    cases reading with
    | awaited => simp [follow_watched_run_awaited, Reading.follow, runOnce_awaited, ih]
    | executed value =>
      simp [follow_watched_run_executed, Reading.follow, Reading.runOnce, ih]

/-- Once the read has been executed, the work is run without it. -/
theorem follow_watched_executed {value : Option α} :
    ((Reading.executed value).follow (watchedRead read) plan.watched).run seen =
      (fun rest => ((rest.2, .executed value),
        seen ++ (List.replicate rest.1 (.ran (.ok ())) ++ [.reported rest.2]))) <$> plan.spare := by
  induction plan generalizing seen with
  | report result => simp [follow_watched_report, Plan.spare]
  | act effect next ih => simp [follow_watched_act, Plan.spare, ih]
  | run view next ih =>
    simp [follow_watched_run_executed, Plan.spare, ih, List.replicate_succ]

theorem follow_watched_awaited :
    (Reading.awaited.follow (watchedRead read) plan.watched).run seen =
      (fun e => ((e.reported, e.last), seen ++ e.sightings)) <$> plan.episode read := by
  induction plan generalizing seen with
  | report result =>
    simp [follow_watched_report, Plan.episode, Episode.reported, Episode.last, Episode.sightings]
  | act effect next ih => simp [follow_watched_act, Plan.episode, ih]
  | run view next ih =>
    simp [follow_watched_run_awaited, follow_watched_executed, Plan.episode, Episode.reported,
      Episode.last, Episode.sightings]

variable (read)

/-- Watching changes nothing. -/
theorem fst_watch : Prod.fst <$> watch plan read = readOnce plan read := by
  calc
    _ = (fun ended => ended.2.conclude ended.1) <$> Prod.fst <$>
        (Reading.awaited.follow (watchedRead read) plan.watched).run [] := by simp [watch, readOnce]
    _ = (fun ended => ended.2.conclude ended.1) <$> Reading.awaited.follow read plan := by
      rw [fst_follow_watched]
    _ = readOnce plan read := by simp [readOnce]

theorem watch_eq : watch plan read = (fun e => (e.result, e.sightings)) <$> plan.episode read := by
  simp [watch, readOnce, follow_watched_awaited, Episode.result]

theorem readOnce_eq : readOnce plan read = Episode.result <$> plan.episode read := by
  rw [← fst_watch, watch_eq, Functor.map_map]

end Following

/-! ## What an episode tells -/

/-- The result of a read is borne out by what was seen of it. -/
structure Honest (result : Except StorageError α) (seen : List (Sighting α)) : Prop where
  /-- The read is executed once if the work is run at all, however often. -/
  once : (Sighting.executions seen).length = min 1 (Sighting.runs seen).length
  reported : (Sighting.reports seen).length = 1
  value : ∀ a, result = .ok a ↔
    Sighting.reports seen = [.ok ()] ∧ Sighting.executions seen = [.ok a]
  failure : ∀ e, Sighting.reports seen = [.error e] → result = .error e
  /-- The work was never run, or the storage kept its failure to itself. -/
  otherwise : Sighting.reports seen = [.ok ()] → (∀ a, Sighting.executions seen ≠ [.ok a]) →
    result = .error (.backend "read work was not executed")

namespace Episode

theorem reports_sightings (e : Episode α) : Sighting.reports e.sightings = [e.reported] := by
  cases e <;> simp [sightings, reported, Sighting.reports]

theorem length_executions (e : Episode α) :
    (Sighting.executions e.sightings).length = min 1 (Sighting.runs e.sightings).length := by
  cases e <;> simp [sightings, Sighting.executions, Sighting.runs]

/-- The reading ends with the value of the execution. -/
theorem last_eq_executed_iff {e : Episode α} {a : α} :
    e.last = .executed (some a) ↔ Sighting.executions e.sightings = [.ok a] := by
  rcases e with _ | ⟨_ | _, _, _⟩ <;>
    simp [last, sightings, Sighting.executions, Except.toOption]

theorem honest (e : Episode α) : Honest e.result e.sightings where
  once := e.length_executions
  reported := congrArg List.length e.reports_sightings
  value a := by
    rw [e.reports_sightings, List.singleton_inj, ← last_eq_executed_iff]
    exact Reading.conclude_eq_ok_iff
  failure error reports := by
    rw [e.reports_sightings, List.singleton_inj] at reports
    rw [result, reports]
    rfl
  otherwise reports missed := by
    rw [e.reports_sightings, List.singleton_inj] at reports
    have valueless (a : α) : e.last ≠ .executed (some a) := mt last_eq_executed_iff.mp (missed a)
    rw [result, reports]
    exact Reading.conclude_of_valueless valueless

end Episode

/-! ## Any storage and any read -/

/-- Whatever a storage does with the work, and whatever the read does: watching them changes nothing,
and every read under watch ends with a result that is borne out by what was seen of it. The type of
`ends` says so of every way in which the read can end. -/
theorem reads_at_most_once [Monad m] [LawfulMonad m] (plan : Plan m ν (Except StorageError Unit))
    (read : ν → m (Except StorageError α)) :
    Prod.fst <$> watch plan read = readOnce plan read ∧
    ∃ ends : m { ended : Except StorageError α × List (Sighting α) // Honest ended.1 ended.2 },
      Subtype.val <$> ends = watch plan read := by
  refine ⟨fst_watch read plan,
    (fun e => ⟨(e.result, e.sightings), e.honest⟩) <$> plan.episode read, ?_⟩
  rw [watch_eq, Functor.map_map]

/-- A storage that runs the work on two views, whatever comes of it, and says that all went well. -/
def Plan.stubborn : Plan (StateM Nat) Nat (Except StorageError Unit) :=
  .run 1 fun _ => .act (modify (· + 10)) fun _ => .run 2 fun _ => .report (.ok ())

/-- A read that adds its view to the state, and fails on the first one. -/
def failingFirst (view : Nat) : StateM Nat (Except StorageError Nat) := do
  modify (· + view)
  return if view = 1 then .error .notPrepared else .ok view

theorem reads_at_most_once_of_stubborn :
    (readOnce Plan.stubborn failingFirst).run 0 = (.error unexecuted, 11) ∧
    Honest (.error unexecuted) [.executed (.error .notPrepared : Except StorageError Nat),
      .ran (.error .notPrepared), .ran (.ok ()), .reported (.ok ())] := by
  obtain ⟨same, ends, watched⟩ := reads_at_most_once Plan.stubborn failingFirst
  have ended : (ends.run 0).1.val = _ := congrArg (fun x => (x.run 0).1) watched
  have honest := (ends.run 0).1.property
  rw [ended] at honest
  exact ⟨same ▸ rfl, honest⟩

end Tenure.Storage

namespace Tenure.Rehearsal

/-- Whatever the hooks of a rehearsal do, a read of the identity is one such episode. -/
theorem readFrameworkId_eq (reactor : Reactor) :
    readFrameworkId reactor =
      (Storage.Episode.result <$> (readingPlan reactor).episode id).run :=
  congrArg OptionT.run (Storage.readOnce_eq id (readingPlan reactor))

end Tenure.Rehearsal
