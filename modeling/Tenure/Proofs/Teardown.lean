import Tenure.Proofs.Custody

/-!
# One teardown, whole and in order

Only a teardown stops the driver and the storage and signals shutdown, and only one task gets to
do it. What it puts down in the trace is told by how far it has come, so a replica at rest has
either done none of it or all of it, in order. What it takes from the slot it leaves once. Over the
whole run a grant is left as often as it was given, and so more than once if it was given again.
-/
namespace Tenure.Lifecycle

/-! ## What only a teardown does -/

def Call.isClosing : Call → Bool
  | stopDriver _ | stopStorage | shutdown => true
  | _ => false

namespace Act

/-- What the teardown took from the slot. -/
def taken? : Act → Option (Option Grant)
  | accessed .takeSlot taken => some taken
  | _ => none

/-- The driver reference as the teardown found it. -/
def found? : Act → Option (Option DriverId)
  | accessed .readDriver found => some found
  | _ => none

end Act

/-- The calls of a whole teardown, by what it took and found. -/
def farewell (taken : Option Grant) (found : Option DriverId) : List Call :=
  (taken.map .leave).toList ++ (found.map .stopDriver).toList ++ [.stopStorage, .shutdown]

namespace Teardown

def taken? : Teardown → Option (Option Grant)
  | begun => none
  | took grant => some (some grant)
  | left taken | entered taken | found taken _ => some taken
  | stopped taken _ | exited taken _ | halted taken _ | cleared taken _ => some taken

def found? : Teardown → Option (Option DriverId)
  | begun | took _ | left _ | entered _ => none
  | found _ driver => some (some driver)
  | stopped _ seen | exited _ seen | halted _ seen | cleared _ seen => some seen

/-- The calls a teardown has made so far but for the leave. -/
def closing : Teardown → List Call
  | begun | took _ | left _ | entered _ | found _ _ => []
  | stopped _ seen | exited _ seen => (seen.map .stopDriver).toList
  | halted _ seen | cleared _ seen => (seen.map .stopDriver).toList ++ [.stopStorage]

/-- The calls a teardown has made so far. -/
def calls : Teardown → List Call
  | begun | took _ => []
  | left taken | entered taken | found taken _ => (taken.map .leave).toList
  | stopped taken seen | exited taken seen =>
    (taken.map .leave).toList ++ (seen.map .stopDriver).toList
  | halted taken seen | cleared taken seen =>
    (taken.map .leave).toList ++ (seen.map .stopDriver).toList ++ [.stopStorage]

end Teardown

namespace Death

def taken? : Death → Option (Option Grant)
  | tearing stage => stage.taken?
  | complete taken _ => some taken
  | _ => .none

def found? : Death → Option (Option DriverId)
  | tearing stage => stage.found?
  | complete _ found => some found
  | _ => .none

/-- The calls of a teardown so far. -/
def calls : Death → List Call
  | tearing stage => stage.calls
  | complete taken found => farewell taken found
  | _ => []

def closing : Death → List Call
  | tearing stage => stage.closing
  | complete _ found => (found.map .stopDriver).toList ++ [.stopStorage, .shutdown]
  | _ => []

theorem of_teardown {d : Death} {taken : Option Grant} {found : Option DriverId}
    (h : d.teardown = complete taken found) : d = complete taken found := by
  cases d <;> simp_all [teardown]

end Death

/-! ## Records -/

section Records

variable {stage : Teardown} {e : Act} {d : Death} {permits : Account → Act → Prop} {G : Account}

theorem Teardown.Moves.taken? (h : stage.Moves e d) :
    d.taken?.toList = stage.taken?.toList ++ e.taken?.toList := by
  cases h with
  | take taken => cases taken <;> rfl
  | find _ seen => cases seen <;> simp [Death.taken?, Teardown.taken?, Act.taken?, Teardown.ofFound]
  | _ => simp [Death.taken?, Teardown.taken?, Act.taken?]

theorem Teardown.Moves.found? (h : stage.Moves e d) :
    d.found?.toList = stage.found?.toList ++ e.found?.toList := by
  cases h with
  | take taken => cases taken <;> rfl
  | find _ seen => cases seen <;> rfl
  | _ => simp [Death.found?, Teardown.found?, Act.found?]

theorem Teardown.Moves.closing (h : stage.Moves e d) :
    d.closing = stage.closing ++ (e.callTo? Call.isClosing).toList := by
  cases h with
  | take taken => cases taken <;> rfl
  | find _ seen => cases seen <;> rfl
  | _ =>
    simp [Death.closing, Teardown.closing, Act.callTo?, Act.call?, Option.filter, Call.isClosing]

theorem Teardown.count_closing (stage : Teardown) : stage.closing.count .shutdown = 0 := by
  cases stage with
  | begun | took | left | entered | found => rfl
  | stopped _ seen | exited _ seen | halted _ seen | cleared _ seen => cases seen <;> rfl

theorem Death.none_allows_notice {n : Notice}
    (act : e = .called (.notice n) ∨ ∃ x, e = .answered (.notice n) x) : none.Allows e := by
  obtain rfl | ⟨x, rfl⟩ := act <;> trivial

theorem Act.taken?_of_live (live : Death.none.Allows e) : e.taken? = none := by
  fun_cases Act.taken? e <;> first | rfl | exact live.elim

theorem Act.found?_of_live (live : Death.none.Allows e) : e.found? = none := by
  fun_cases Act.found? e <;> first | rfl | exact live.elim

theorem Act.closing_of_live (live : Death.none.Allows e) : e.callTo? Call.isClosing = none := by
  cases e with
  | accessed | answered => rfl
  | called c => cases c <;> first | rfl | exact live.elim

/-- What only a teardown does is in the acts as far as the teardown has come. -/
theorem Account.Reached.teardown_record {β : Type} (h : Reached permits G)
    (record : Death → List β) (adds : Act → Option β) (start : record .none = [])
    (begun : record (.tearing .begun) = [])
    (live : ∀ e, Death.none.Allows e → adds e = none)
    (claim : ∀ won, adds (.accessed .claimTeardown won) = none)
    (moves : ∀ stage e d, Teardown.Moves stage e d →
      record d = record (.tearing stage) ++ (adds e).toList) :
    G.acts.filterMap adds = record G.teardown := by
  induction h with
  | start => exact start.symm
  | step reached _ step ih =>
    rw [step.acts, filterMap_append_singleton, ih]
    cases step with
    | live _ allowed => simp [live _ allowed]
    | noticed act => simp [live _ (Death.none_allows_notice act)]
    | @claimed won _ act possible =>
      subst act
      cases won with
      | false => simp [claim]
      | true => simp [claim, reached.mortal.first possible, start, begun]
    | torn tearing moved => rw [tearing, moves _ _ _ moved]

theorem Account.Reached.taken (h : Reached permits G) :
    G.acts.filterMap Act.taken? = G.teardown.taken?.toList :=
  h.teardown_record (·.taken?.toList) _ rfl rfl (fun _ => Act.taken?_of_live) (fun _ => rfl)
    fun _ _ _ moves => moves.taken?

theorem Account.Reached.found (h : Reached permits G) :
    G.acts.filterMap Act.found? = G.teardown.found?.toList :=
  h.teardown_record (·.found?.toList) _ rfl rfl (fun _ => Act.found?_of_live) (fun _ => rfl)
    fun _ _ _ moves => moves.found?

theorem Account.Reached.closing (h : Reached permits G) :
    G.acts.filterMap (Act.callTo? Call.isClosing) = G.teardown.closing :=
  h.teardown_record (·.closing) _ rfl rfl (fun _ => Act.closing_of_live) (fun _ => rfl)
    fun _ _ _ moves => moves.closing

theorem Teardown.Moves.calls (h : stage.Moves e d) : d.calls = stage.calls ++ e.call?.toList := by
  cases h with
  | take taken => cases taken <;> rfl
  | find _ seen => cases seen <;> simp [Death.calls, Teardown.calls, Act.call?, Teardown.ofFound]
  | _ => simp [Death.calls, Teardown.calls, Act.call?, farewell]

/-- A teardown calls without a break, and a task that tears down does nothing else. -/
theorem Walk.calls {acts : List Act} {r : Place} (h : Walk acts r) :
    r.death.calls <:+: acts.filterMap Act.call? ∧
      (r.death.isActive = true → r.death.calls <:+ acts.filterMap Act.call?) := by
  induction h with
  | start => exact ⟨List.nil_infix, nofun⟩
  | @step acts r e _ allowed ih =>
    rw [filterMap_append_singleton]
    cases active : r.death.isActive with
    | false =>
      rw [Place.after_of_inactive active]
      rw [Place.allows_of_inactive active] at allowed
      rcases Death.after_of_inactive active allowed.2.2.2.2 with ⟨-, -, dying⟩ | ⟨-, same⟩
      · rw [dying]
        exact ⟨List.nil_infix, fun _ => List.nil_suffix⟩
      · rw [same, active]
        exact ⟨ih.1.trans (List.prefix_append _ _).isInfix, nofun⟩
    | true =>
      rw [Place.after_of_active active]
      rw [Place.allows_of_active active] at allowed
      suffices tail : (r.death.after e).calls <:+
          acts.filterMap Act.call? ++ e.call?.toList from ⟨tail.isInfix, fun _ => tail⟩
      cases death : r.death with
      | none | complete => rw [death] at active; cases active
      | dying =>
        rw [death] at allowed
        rcases Death.dying_allows allowed with ⟨n, rfl | ⟨x, rfl⟩⟩ | ⟨won, rfl⟩
        · exact List.nil_suffix
        · exact List.nil_suffix
        · cases won <;> exact List.nil_suffix
      | tearing stage =>
        rw [death] at allowed
        obtain ⟨before, eq⟩ := ih.2 active
        refine ⟨before, ?_⟩
        rw [Death.after, (Teardown.moves_of_allows allowed).calls, ← eq, death, List.append_assoc]
        rfl

end Records

/-! ## After a run -/

namespace Trace

/-- What teardowns took from the slot. -/
def taken (t : Trace) : List (Option Grant) := t.filterMap fun entry => entry.2.taken?

/-- The driver references that teardowns found. -/
def found (t : Trace) : List (Option DriverId) := t.filterMap fun entry => entry.2.found?

end Trace

section Run

variable {p : Pool} {l : List Actor} {G : Account}

theorem Adequate.taken (h : Adequate p l G) : p.trace.taken = G.acts.filterMap Act.taken? := by
  rw [h.acts, List.filterMap_map]
  rfl

theorem Adequate.found (h : Adequate p l G) : p.trace.found = G.acts.filterMap Act.found? := by
  rw [h.acts, List.filterMap_map]
  rfl

theorem Adequate.calls (h : Adequate p l G) (q : Call → Bool) :
    p.trace.calls.filter q = G.acts.filterMap (Act.callTo? q) := by
  rw [h.acts, List.filterMap_map, Trace.calls, List.filter_filterMap]
  rfl

theorem Trace.callsBy_eq (i : Nat) (t : Trace) : t.callsBy i = (t.acts i).filterMap Act.call? := by
  rw [acts, List.filterMap_filterMap, callsBy]
  congr 1
  funext entry
  by_cases own : entry.1 = i <;> simp [own]

end Run

/-- When every operation is over, a replica that lives has called for nothing of a teardown. A
dead one has been torn down once: one task has left what it took from the slot, stopped the driver
that it found, stopped the storage and signalled shutdown, in this order and without a break. In
the whole run the grant that it took has been left once just if it was given once; each grant has
been left as often as it was given. -/
theorem torn_down_once {schedule : List Choice} {p : Pool}
    (run : Pool.run Rule.calm schedule = some p) (quiet : p.isQuiet = true) :
    (p.shared.state ≠ .dead → p.trace.calls.filter Call.isClosing = []) ∧
    (p.shared.state = .dead → ∃ t taken found,
      p.trace.taken = [taken] ∧ p.trace.found = [found] ∧
      p.trace.calls.filter Call.isClosing =
        (found.map .stopDriver).toList ++ [.stopStorage, .shutdown] ∧
      farewell taken found <:+: p.trace.callsBy t ∧
      (∀ grant, taken = some grant →
        (p.trace.calls.count (.leave grant) = 1 ↔ p.grants.count grant = 1)) ∧
      ∀ grant, p.trace.calls.count (.leave grant) = p.grants.count grant) := by
  obtain ⟨l, G, adequate, reached⟩ := Pool.accounted run
  rw [adequate.calls, reached.closing, adequate.taken, reached.taken, adequate.found,
    reached.found, ← adequate.shared]
  refine ⟨fun live => ?_, fun dead => ?_⟩
  · rw [reached.mortal.teardown_of_live live]
    rfl
  · obtain ⟨taken, found, complete⟩ := (adequate.atRest quiet).complete reached dead
    obtain ⟨t, x, ht, eq⟩ := adequate.accounts.teardown.exists_of_ne (by rw [complete]; simp)
    have death : x.place.death = .complete taken found := Death.of_teardown (eq.trans complete)
    have calls := (adequate.walks t x ht).calls.1
    rw [death, ← Trace.callsBy_eq] at calls
    have left (grant : Grant) : p.trace.calls.count (.leave grant) = p.grants.count grant := by
      have law := adequate.count_leaves_add reached quiet grant
      rw [← adequate.shared, reached.slot_of_dead (adequate.atRest quiet) dead] at law
      exact law
    rw [complete]
    exact ⟨t, taken, found, rfl, rfl, rfl, calls, fun grant _ => by rw [left], left⟩

/-- A replica that died while it led is torn down, and leaves the grant that was in its slot. -/
theorem torn_down_once_of_overtaken :
    ∃ p, p ∈ Pool.run Rule.calm Choice.overtaken ∧ p.isQuiet = true ∧ p.shared.state = .dead ∧
      p.grants.count ⟨"b"⟩ = 1 ∧
      ∃ t found, p.trace.taken = [some ⟨"b"⟩] ∧ p.trace.found = [found] ∧
        farewell (some ⟨"b"⟩) found <:+: p.trace.callsBy t ∧
        p.trace.calls.count (.leave ⟨"b"⟩) = 1 := by
  have ends : ∃ p, p ∈ Pool.run Rule.calm Choice.overtaken ∧ p.isQuiet = true ∧
      p.shared.state = .dead ∧ p.grants.count ⟨"b"⟩ = 1 ∧ p.trace.taken = [some ⟨"b"⟩] := by
    decide +kernel
  obtain ⟨p, run, quiet, dead, once, held⟩ := ends
  obtain ⟨t, taken, found, took, saw, -, whole, left, -⟩ := (torn_down_once run quiet).2 dead
  obtain rfl : taken = some ⟨"b"⟩ := List.singleton_inj.mp (took.symm.trans held)
  exact ⟨p, run, quiet, dead, once, t, found, took, saw, whole, (left _ rfl).mpr once⟩

/-- The grant of a leader is delivered once more and refused. Then the replica dies. -/
def Choice.redelivered : List Choice :=
  prepares 0 ++
    .begin (.lead ⟨"a"⟩) :: upTo 1 5 (.notice (.installed .leaderAwaitingRegistration)) () ++
    upTo 1 2 .repairStorage (.ok ()) ++ startsDriver 1 ++ [.advance 1] ++
    .begin (.lead ⟨"a"⟩) :: upTo 2 5 (.notice .grantRefused) () ++
    upTo 2 2 (.leave ⟨"a"⟩) (.ok ()) ++ [.advance 2] ++
    .begin (.request .dead) :: upTo 3 3 (.notice (.installed .dead)) () ++
    upTo 3 3 (.leave ⟨"a"⟩) (.ok ()) ++ upTo 3 4 (.stopDriver ⟨0⟩) .stopped ++
    upTo 3 3 .stopStorage (.ok ()) ++ upTo 3 3 .shutdown ()

/-- The grant that the teardown takes from the slot has been left before. -/
theorem left_twice_of_redelivered :
    ∃ p, p ∈ Pool.run Rule.reentrant Choice.redelivered ∧ p.isQuiet = true ∧
      p.shared.state = .dead ∧ p.trace.taken = [some ⟨"a"⟩] ∧
      p.trace.calls.count (.leave ⟨"a"⟩) = 2 := by
  decide +kernel

end Tenure.Lifecycle
