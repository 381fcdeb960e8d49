import Tenure.Proofs.Works
import Tenure.Proofs.Teardown

/-!
# The driver's lock as a gate

The task that takes the lead starts the driver under the driver's lock, and only if it sees the
replica alive there; a teardown stops under the same lock the driver that it finds. The replica
is dead before its teardown begins, so whichever comes first decides: a start is seen by the
teardown after it, and after a teardown there is no start.
-/
namespace Tenure.Lifecycle

/-! ## What a teardown tells -/

namespace Teardown

/-- Whether the teardown has given back the driver's lock. -/
def hasPassed : Teardown → Bool
  | exited _ _ | halted _ _ | cleared _ _ => true
  | _ => false

/-- The calls that stop the driver. -/
def stops : Teardown → List Call
  | stopped _ seen | exited _ seen | halted _ seen | cleared _ seen =>
    (seen.map .stopDriver).toList
  | _ => []

end Teardown

namespace Death

def isInside : Death → Bool
  | tearing stage => stage.isInside
  | _ => false

def hasPassed : Death → Bool
  | tearing stage => stage.hasPassed
  | complete _ _ => true
  | _ => false

def stops : Death → List Call
  | tearing stage => stage.stops
  | complete _ seen => (seen.map .stopDriver).toList
  | _ => []

/-- Before it has the lock, a teardown has stopped nothing. -/
theorem stops_eq_nil {d : Death} (outside : d.isInside = false) (before : d.hasPassed = false) :
    d.stops = [] := by
  cases d with
  | tearing stage =>
    cases stage with
    | stopped => cases outside
    | exited | halted | cleared => cases before
    | _ => rfl
  | complete => cases before
  | none | dying => rfl

end Death

/-- The calls that start and stop the driver. -/
def Call.isDriving : Call → Bool
  | startDriver _ | stopDriver _ => true
  | _ => false

section Moves

variable {stage : Teardown} {e : Act} {d : Death}

theorem Teardown.Moves.stops (h : stage.Moves e d) :
    d.stops = stage.stops ++ (e.callTo? Call.isDriving).toList := by
  cases h with
  | take taken => cases taken <;> rfl
  | find _ seen => cases seen <;> rfl
  | _ => simp [Death.stops, Teardown.stops, Act.callTo?, Act.call?, Option.filter, Call.isDriving]

theorem Act.driving_of_live {e : Act} (live : Death.none.Allows e)
    (other : e.isLeading = false) : e.callTo? Call.isDriving = none := by
  cases e with
  | accessed | answered => rfl
  | called c =>
    cases c with
    | startDriver => cases other
    | stopDriver => exact live.elim
    | _ => rfl

theorem Leading.Moves.starts {l l' : Leading} (h : Leading.Moves l e l')
    (live : Death.none.Allows e) :
    l'.starts = l.starts ++ (e.callTo? Call.isDriving).toList := by
  cases h with
  | stay _ other => simp [Act.driving_of_live live other]
  | _ => simp [Leading.starts, Act.callTo?, Act.call?, Option.filter, Call.isDriving]

/-- The driver is started under the lock. -/
theorem Leading.Moves.isClear_of_drives {l l' : Leading} {c : Call} (h : Leading.Moves l e l')
    (live : Death.none.Allows e) (drives : e.callTo? Call.isDriving = some c) :
    l.isClear = true := by
  cases h with
  | start => rfl
  | stay _ other => simp [Act.driving_of_live live other] at drives
  | _ => cases drives

end Moves

/-! ## The gate -/

theorem Act.Possible.free {s : Shared} {l : Lock}
    (h : Act.Possible s (.accessed (.lock l) ())) : s.isHeld l = false := by
  obtain ⟨s', h⟩ := h
  simp only [Access.apply] at h
  split at h
  · cases h
  · next free => exact Bool.not_eq_true _ ▸ free

namespace Account

variable {G G' : Account} {e : Act} {permits : Account → Act → Prop}

structure Gate (G : Account) : Prop where
  held : G.shared.driverHeld = (G.leading.isInside || G.teardown.isInside)
  apart : G.leading.isInside = true → G.teardown.isInside = false
  /-- Seen alive under the lock, a replica is not torn down past the lock. -/
  before : G.leading.isClear = true → G.teardown.hasPassed = false

/-- Who takes the lock or gives it back finds it as the variables say. -/
theorem Gate.live (gate : Gate G) (mortal : Mortal G) (possible : e.Possible G.shared)
    {l : Leading} (moves : Leading.Moves G.leading e l) :
    ((e.effect G.shared).driverHeld = (l.isInside || G.teardown.isInside)) ∧
      (l.isInside = true → G.teardown.isInside = false) ∧
        (l.isClear = true → G.teardown.hasPassed = false) := by
  obtain ⟨held, apart, before⟩ := gate
  rw [Act.effect_driverHeld]
  generalize G.leading = l₀ at moves held apart before
  cases moves with
  | enter =>
    have free := held.symm.trans possible.free
    exact ⟨rfl, fun _ => free, nofun⟩
  | exit | turnAway =>
    rw [apart rfl]
    exact ⟨rfl, nofun, nofun⟩
  | clear id driver s alive =>
    obtain ⟨s', ⟨⟩⟩ := possible
    rw [mortal.teardown_of_live alive] at held ⊢
    exact ⟨held, fun _ => rfl, fun _ => rfl⟩
  | start | started => exact ⟨held, apart, before⟩
  | stay _ other => exact ⟨by rw [Act.holdsDriver_of_isLeading other, held], apart, before⟩
  | _ => exact ⟨held, apart, nofun⟩

theorem Gate.step (gate : Gate G) (mortal : Mortal G) (step : G.Step e G') : Gate G' := by
  cases step with
  | live possible live _ _ leading =>
    obtain ⟨held, apart, before⟩ := gate.live mortal possible (Leading.moves_of_turn leading)
    exact ⟨held, apart, before⟩
  | noticed act => exact ⟨gate.held, gate.apart, gate.before⟩
  | @claimed won _ act possible =>
    obtain ⟨held, apart, before⟩ := gate
    subst act
    cases won with
    | false => exact ⟨held, apart, before⟩
    | true =>
      rw [mortal.first possible] at held apart before
      exact ⟨held, apart, before⟩
  | torn tearing moves possible =>
    obtain ⟨held, apart, before⟩ := gate
    rw [tearing] at held apart before
    have unclear (free : G.leading.isInside = false) (clear : G.leading.isClear = true) :
        False := by
      rw [Leading.isInside_of_isClear clear] at free
      cases free
    cases moves with
    | enter =>
      have free := (Bool.or_eq_false_iff.mp (held.symm.trans possible.free)).1
      refine ⟨by rw [free]; rfl, fun leads => ?_, fun clear => (unclear free clear).elim⟩
      rw [free] at leads
      cases leads
    | exit =>
      have free : G.leading.isInside = false := by
        cases leads : G.leading.isInside with
        | false => rfl
        | true => cases apart leads
      exact ⟨by rw [free]; rfl, fun _ => rfl, fun clear => (unclear free clear).elim⟩
    | take taken => cases taken <;> exact ⟨held, apart, before⟩
    | find _ seen => cases seen <;> exact ⟨held, apart, before⟩
    | _ => exact ⟨held, apart, before⟩

theorem Reached.gate (h : Reached permits G) : Gate G := by
  induction h with
  | start => exact ⟨rfl, nofun, nofun⟩
  | step reached _ step ih => exact ih.step reached.mortal step

/-- The driver is started before it is stopped. -/
theorem Reached.driving (h : Reached permits G) :
    G.acts.filterMap (Act.callTo? Call.isDriving) = G.leading.starts ++ G.teardown.stops := by
  induction h with
  | start => rfl
  | step reached _ step ih =>
    rw [step.acts, filterMap_append_singleton, ih]
    cases step with
    | live possible live _ _ leading =>
      have moves := Leading.moves_of_turn leading
      rw [moves.starts live]
      cases drives : Act.callTo? Call.isDriving _ with
      | none => simp
      | some c =>
        have clear := moves.isClear_of_drives live drives
        have gate := reached.gate
        rw [Death.stops_eq_nil (gate.apart (Leading.isInside_of_isClear clear)) (gate.before clear)]
        simp
    | noticed act => obtain rfl | ⟨x, rfl⟩ := act <;> exact List.append_nil _
    | @claimed won _ act possible =>
      subst act
      cases won with
      | false => exact List.append_nil _
      | true =>
        rw [reached.mortal.first possible]
        exact List.append_nil _
    | torn tearing moves possible =>
      rw [moves.stops, tearing, List.append_assoc]
      rfl

/-- A teardown finds the driver that was published; one that was seen alive under the lock has been
found. -/
structure Meets (G : Account) : Prop where
  driver : ∀ driver, G.teardown.found? = some (some driver) → G.leading.driver? = some driver
  clear : ∀ seen, G.teardown.found? = some seen → G.leading.wasClear = true →
    seen = G.leading.driver?

theorem Meets.live (meets : Meets G) (mortal : Mortal G) (possible : e.Possible G.shared)
    {l : Leading} (moves : Leading.Moves G.leading e l) :
    (∀ driver, G.teardown.found? = some (some driver) → l.driver? = some driver) ∧
      ∀ seen, G.teardown.found? = some seen → l.wasClear = true → seen = l.driver? := by
  obtain ⟨driver, clear⟩ := meets
  generalize G.leading = l₀ at moves driver clear
  cases moves with
  | publish id published =>
    exact ⟨fun driver' found => (nomatch driver driver' found), nofun⟩
  | clear id published s alive =>
    obtain ⟨s', ⟨⟩⟩ := possible
    rw [mortal.teardown_of_live alive]
    exact ⟨nofun, nofun⟩
  | _ => exact ⟨driver, clear⟩

theorem Meets.step (meets : Meets G) (reached : Reached permits G) (step : G.Step e G') :
    Meets G' := by
  cases step with
  | live possible live _ _ leading =>
    obtain ⟨driver, clear⟩ := meets.live reached.mortal possible (Leading.moves_of_turn leading)
    exact ⟨driver, clear⟩
  | noticed act => exact ⟨meets.driver, meets.clear⟩
  | @claimed won _ act possible =>
    obtain ⟨driver, clear⟩ := meets
    cases won with
    | false => exact ⟨driver, clear⟩
    | true => exact ⟨nofun, nofun⟩
  | torn tearing moves possible =>
    obtain ⟨driver, clear⟩ := meets
    rw [tearing] at driver clear
    cases moves with
    | find taken seen =>
      obtain ⟨s', ⟨⟩⟩ := possible
      have found : (Death.tearing (.ofFound taken G.shared.driver)).found? =
          some G.shared.driver := by
        cases G.shared.driver <;> rfl
      have same := reached.driver
      refine ⟨fun driver' h => ?_, fun seen' h _ => ?_⟩
      · rw [← same]
        exact Option.some.inj (found.symm.trans h)
      · rw [← same]
        exact (Option.some.inj (found.symm.trans h)).symm
    | take taken => cases taken <;> exact ⟨nofun, nofun⟩
    | _ => exact ⟨driver, clear⟩

theorem Reached.meets (h : Reached permits G) : Meets G := by
  induction h with
  | start => exact ⟨nofun, nofun⟩
  | step reached _ step ih => exact ih.step reached step

end Account

/-! ## After a run -/

theorem Leading.starts_cases (l : Leading) :
    l.starts = [] ∨
      ∃ driver, l.starts = [.startDriver driver] ∧ l.driver? = some driver ∧
        l.wasClear = true := by
  cases l with
  | starting _ driver | started _ driver | running _ driver | led _ driver =>
    exact .inr ⟨driver, rfl, rfl, rfl⟩
  | _ => exact .inl rfl

theorem Death.stops_cases (d : Death) :
    d.stops = [] ∨
      ∃ driver, d.stops = [.stopDriver driver] ∧ d.found? = some (some driver) := by
  cases d with
  | none | dying => exact .inl rfl
  | complete _ seen =>
    cases seen with
    | none => exact .inl rfl
    | some driver => exact .inr ⟨driver, rfl, rfl⟩
  | tearing stage =>
    cases stage with
    | stopped _ seen | exited _ seen | halted _ seen | cleared _ seen =>
      cases seen with
      | none => exact .inl rfl
      | some driver => exact .inr ⟨driver, rfl, rfl⟩
    | _ => exact .inl rfl

/-- However the steps of taking the lead and of dying interleave, one driver at most is started
and stopped, each at most once and the start first. A driver that the teardown does not find is
never started, and when every operation is over on a dead replica, a driver that was started has
been stopped. -/
theorem driver_stopped_after_start {schedule : List Choice} {p : Pool}
    (run : Pool.run Rule.calm schedule = some p) :
    (∃ driver, p.trace.calls.filter Call.isDriving ∈
      [[], [.startDriver driver], [.stopDriver driver],
        [.startDriver driver, .stopDriver driver]]) ∧
    (none ∈ p.trace.found → ∀ driver, .startDriver driver ∉ p.trace.calls) ∧
    (p.isQuiet = true → p.shared.state = .dead → ∀ driver, .startDriver driver ∈ p.trace.calls →
      p.trace.calls.filter Call.isDriving = [.startDriver driver, .stopDriver driver]) := by
  obtain ⟨l, G, adequate, reached⟩ := Pool.accounted run
  have driving : p.trace.calls.filter Call.isDriving = G.leading.starts ++ G.teardown.stops := by
    rw [adequate.calls, reached.driving]
  have started (driver : DriverId) (mem : Call.startDriver driver ∈ p.trace.calls) :
      G.leading.starts = [.startDriver driver] ∧ G.leading.driver? = some driver ∧
        G.leading.wasClear = true := by
    have mem : Call.startDriver driver ∈ G.leading.starts ++ G.teardown.stops := by
      rw [← driving]
      exact List.mem_filter.mpr ⟨mem, rfl⟩
    rcases Leading.starts_cases G.leading with none | ⟨driver', starts, published, clear⟩ <;>
      rcases Death.stops_cases G.teardown with none' | ⟨driver'', stops, -⟩ <;>
      simp_all
  refine ⟨?_, fun found driver mem => ?_, fun quiet dead driver mem => ?_⟩
  · rw [driving]
    rcases Leading.starts_cases G.leading with none | ⟨driver, starts, published, -⟩ <;>
      rcases Death.stops_cases G.teardown with none' | ⟨driver', stops, found⟩
    · exact ⟨⟨0⟩, by simp [none, none']⟩
    · exact ⟨driver', by simp [none, stops]⟩
    · exact ⟨driver, by simp [starts, none']⟩
    · have same := published.symm.trans (reached.meets.driver driver' found)
      cases same
      exact ⟨driver, by simp [starts, stops]⟩
  · obtain ⟨-, published, clear⟩ := started driver mem
    rw [adequate.found, reached.found, Option.mem_toList] at found
    have unseen := reached.meets.clear none found clear
    rw [published] at unseen
    cases unseen
  · obtain ⟨starts, published, clear⟩ := started driver mem
    rw [← adequate.shared] at dead
    obtain ⟨taken, found, complete⟩ := (adequate.atRest quiet).complete reached dead
    have seen := reached.meets.clear found (by rw [complete]; rfl) clear
    rw [driving, starts, complete, seen, published]
    rfl

/-- A driver that was started is stopped when the replica dies. -/
theorem driver_stopped_after_start_of_overtaken :
    ∃ p, p ∈ Pool.run Rule.calm Choice.overtaken ∧ p.isQuiet = true ∧
      p.trace.calls.filter Call.isDriving = [.startDriver ⟨0⟩, .stopDriver ⟨0⟩] := by
  have ends : ∃ p, p ∈ Pool.run Rule.calm Choice.overtaken ∧ p.isQuiet = true ∧
      p.shared.state = .dead ∧ .startDriver ⟨0⟩ ∈ p.trace.calls := by
    decide +kernel
  obtain ⟨p, run, quiet, dead, started⟩ := ends
  exact ⟨p, run, quiet, (driver_stopped_after_start run).2.2 quiet dead ⟨0⟩ started⟩

end Tenure.Lifecycle
