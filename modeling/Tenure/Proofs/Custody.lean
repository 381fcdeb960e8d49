import Tenure.Proofs.Adequacy

/-!
# Who has to leave a grant

A grant that was offered is in the slot, or a task has it and owes its leave, or it was left.
`Custody` says so as a law of conservation, whatever the order in which grants are offered,
accepted, withdrawn and taken by the teardown. `Slot` says what is in the slot when nobody is
taking up a grant.
-/
namespace Tenure.Lifecycle

/-! ## Conservation -/

/-- The grant that a call gives up. -/
def Act.leaves? : Act → Option Grant
  | called (.leave grant) => some grant
  | _ => none

/-- The grant other than its own that a task has taken out of the slot, or its own once it is
taken back. -/
def Hold.owes? : Hold → Option Grant
  | offered _ previous | refused _ previous => previous
  | closing _ _ owed => owed
  | _ => .none

def Teardown.owes? : Teardown → Option Grant
  | took grant => some grant
  | _ => none

def Death.owes? : Death → Option Grant
  | tearing stage => stage.owes?
  | _ => .none

/-- How often a grant is where it may be. -/
def Grant.count (grant : Grant) (held : Option Grant) : Nat := if held = some grant then 1 else 0

/-- Every offer of a grant is in the slot, or owed by a task, or left. -/
def Account.Conserves (G : Account) (grant : Grant) : Prop :=
  G.acts.countP (·.offers? == some grant) =
    G.acts.countP (·.leaves? == some grant) + grant.count G.shared.slot +
      grant.count G.hold.owes? + grant.count G.teardown.owes?

@[simp] theorem Grant.count_none (grant : Grant) : grant.count none = 0 := rfl

@[simp] theorem Hold.owes?_settle (h : Hold) (granted : Bool) :
    (h.settle granted).owes? = h.owes? := by
  cases h <;> cases granted <;> rfl

@[simp] theorem Hold.owes?_current (h : Hold) : h.current.owes? = h.owes? := by cases h <;> rfl

theorem Act.offers?_eq_none {e : Act}
    (replaced : ∀ grant previous, e ≠ .accessed (.replaceSlot grant) previous) :
    e.offers? = none := by
  fun_cases offers? e <;> simp_all

theorem Act.leaves?_eq_none {e : Act} (left : ∀ grant, e ≠ .called (.leave grant)) :
    e.leaves? = none := by
  fun_cases leaves? e <;> simp_all

/-- What comes to a task and what it gives away with an act. -/
theorem Hold.balance {h : Hold} {e : Act} {s : Shared} (allowed : h.Allows e)
    (possible : e.Possible s) (live : Death.none.Allows e) (grant : Grant) :
    grant.count e.offers? + grant.count s.slot + grant.count h.owes? =
      grant.count e.leaves? + grant.count (e.effect s).slot + grant.count (h.after e).owes? := by
  fun_cases h.after e
  · obtain rfl : h = none := allowed
    rfl
  · obtain rfl : h = entered := allowed
    obtain ⟨s', ⟨⟩⟩ := possible
    simp only [owes?, Act.offers?, Act.leaves?, Act.effect, Grant.count_none]
    omega
  · rw [owes?_settle]
    rfl
  · rw [owes?_settle]
    rfl
  · next own previous owed =>
    obtain rfl : h = refused own previous := allowed
    obtain ⟨s', apply⟩ := possible
    simp only [Access.apply, Shared.withdraw, Option.some.injEq] at apply
    simp only [Act.effect]
    split at apply
    · next held =>
      cases apply
      rw [if_pos held, held]
      simp only [owes?, Act.offers?, Act.leaves?]
      omega
    · next gone =>
      cases apply
      rw [if_neg gone]
      rfl
  · obtain ⟨own, accepted, rfl⟩ := allowed
    rfl
  · next left =>
    obtain ⟨own, accepted, rfl⟩ := allowed
    simp only [owes?, Act.offers?, Act.leaves?, release, Act.effect, Grant.count_none]
    omega
  · next _ replaced _ _ withdrawn _ left =>
    rw [Act.effect_slot replaced withdrawn (by rintro held rfl; exact live),
      Act.offers?_eq_none replaced, Act.leaves?_eq_none left]

theorem Teardown.Moves.balance {stage : Teardown} {e : Act} {d : Death} {s : Shared}
    (moves : stage.Moves e d) (possible : e.Possible s) (grant : Grant) :
    grant.count e.offers? + grant.count s.slot + grant.count stage.owes? =
      grant.count e.leaves? + grant.count (e.effect s).slot + grant.count d.owes? := by
  cases moves with
  | take taken =>
    obtain ⟨s', ⟨⟩⟩ := possible
    cases s.slot <;> rfl
  | leave =>
    simp only [owes?, Act.offers?, Act.leaves?, Act.effect, Grant.count_none, Death.owes?]
    omega
  | find taken seen => cases seen <;> rfl
  | _ => rfl

namespace Account

variable {G G' : Account} {e : Act} {permits : Account → Act → Prop} {grant : Grant}

theorem Conserves.step (h : G.Conserves grant) (mortal : Mortal G) (step : G.Step e G') :
    G'.Conserves grant := by
  have balance : grant.count e.offers? + grant.count G.shared.slot + grant.count G.hold.owes? +
      grant.count G.teardown.owes? =
      grant.count e.leaves? + grant.count G'.shared.slot + grant.count G'.hold.owes? +
        grant.count G'.teardown.owes? := by
    cases step with
    | live possible live hold =>
      cases hold with
      | own allowed =>
        have := Hold.balance allowed possible live grant
        rw [Hold.owes?_current]
        dsimp only
        omega
      | other allowed still =>
        have := Hold.balance allowed possible live grant
        rw [still] at this
        dsimp only
        omega
    | noticed act => obtain rfl | ⟨x, rfl⟩ := act <;> rfl
    | @claimed won _ act possible =>
      subst act
      cases won with
      | false => rfl
      | true =>
        rw [mortal.first possible]
        rfl
    | torn tearing moves possible =>
      have := moves.balance possible grant
      rw [tearing]
      simp only [Death.owes?] at *
      omega
  rw [Conserves, step.acts]
  simp only [Conserves, List.countP_append, List.countP_singleton, beq_iff_eq] at h ⊢
  simp only [Grant.count] at h balance ⊢
  omega

/-- Whatever the order of their steps, tasks neither lose a grant nor leave it twice. -/
theorem Reached.conserves (h : Reached permits G) (grant : Grant) : G.Conserves grant := by
  induction h with
  | start => rfl
  | step reached _ step ih => exact ih.step reached.mortal step

end Account

/-! ## The slot -/

/-- The grant that is being taken up, and the one it displaced. -/
def Hold.pending? : Hold → Option (Grant × Option Grant)
  | offered grant previous | refused grant previous => some (grant, previous)
  | _ => .none

theorem Hold.pending?_eq_none {h : Hold} (settled : h.isPending = false) : h.pending? = .none := by
  cases h with
  | offered | refused => cases settled
  | _ => rfl

/-- Whether the teardown has taken what was in the slot. -/
def Death.hasTaken : Death → Bool
  | none | dying | tearing .begun => false
  | _ => true

@[simp] theorem Hold.pending?_current (h : Hold) : h.current.pending? = h.pending? := by
  cases h <;> rfl

namespace Account

variable {G G' : Account} {e : Act} {permits : Account → Act → Prop} {grant : Grant}

/-- What is in the slot when no grant is being taken up. -/
def base (G : Account) : Option Grant := if G.teardown.hasTaken then none else G.accepted

/-- The slot holds the accepted grant until the teardown takes it, and one that is being taken up
in place of it, unless the teardown took that. -/
def SlotHolds (G : Account) : Prop :=
  match G.hold.pending? with
  | none => G.shared.slot = G.base
  | some (grant, previous) =>
    G.shared.slot = some grant ∧ previous = G.base ∨
      G.teardown.hasTaken = true ∧ G.shared.slot = none

theorem SlotHolds.own (h : G.SlotHolds) (reached : Reached permits G)
    (possible : e.Possible G.shared) (live : Death.none.Allows e) (allowed : G.hold.Allows e) :
    SlotHolds { G with
      shared := e.effect G.shared, hold := (G.hold.after e).current,
      accepted := (G.hold.after e).accepted?.or G.accepted } := by
  have accepted := reached.accepted_or
  rw [SlotHolds] at h
  rw [SlotHolds, Hold.pending?_current]
  simp only [base] at h ⊢
  generalize G.hold = hold at h allowed accepted ⊢
  fun_cases hold.after e
  · obtain rfl : hold = .none := allowed
    exact h
  · obtain rfl : hold = .entered := allowed
    obtain ⟨s', ⟨⟩⟩ := possible
    exact .inl ⟨rfl, h⟩
  · next target edge =>
    rcases allowed with settled | ⟨⟨grant, previous, rfl⟩, rfl⟩
    · rw [Hold.settle_eq settled, accepted]
      exact h
    · have alive := Edge.live_of_between? (by rw [possible.edge]; rfl) (by simp)
      have untaken : G.teardown.hasTaken = false := by
        rw [reached.mortal.teardown_of_live alive]
        rfl
      simpa [untaken, Hold.pending?, Hold.settle, Hold.accepted?, Act.effect] using
        And.left (by simpa [untaken, Hold.pending?] using h)
  · next target refusal =>
    rcases allowed with settled | ⟨⟨grant, previous, rfl⟩, rfl⟩
    · rw [Hold.settle_eq settled, accepted]
      exact h
    · exact h
  · next grant previous owed =>
    obtain rfl : hold = .refused grant previous := allowed
    rcases h with ⟨held, rfl⟩ | ⟨taken, empty⟩
    · simp only [Act.effect, if_pos held]
      rfl
    · simp only [Act.effect, empty, taken, reduceCtorEq, ↓reduceIte]
      trivial
  · obtain ⟨own, accepted', rfl⟩ := allowed
    have same : (Hold.closed own accepted').accepted?.or G.accepted = G.accepted := accepted
    rw [Hold.close, same]
    exact h
  · obtain ⟨own, accepted', rfl⟩ := allowed
    have same : (Hold.closing own accepted' none).accepted?.or G.accepted = G.accepted := accepted
    rw [Hold.release, same]
    exact h
  · next _ replaced _ _ withdrawn _ _ =>
    rw [Act.effect_slot replaced withdrawn (by rintro held rfl; exact live), accepted]
    exact h

theorem SlotHolds.step (h : G.SlotHolds) (reached : Reached permits G) (step : G.Step e G') :
    G'.SlotHolds := by
  cases step with
  | live possible live hold =>
    cases hold with
    | own allowed => exact h.own reached possible live allowed
    | other allowed still =>
      rw [SlotHolds, Act.effect_slot]
      · exact h
      · rintro grant previous rfl
        cases allowed
      · rintro grant previous owed rfl
        cases allowed
      · rintro held rfl
        exact live
  | noticed act => exact h
  | @claimed won _ act possible =>
    subst act
    cases won with
    | false => exact h
    | true =>
      rw [SlotHolds, base, reached.mortal.first possible] at h
      exact h
  | torn tearing moves possible =>
    rw [SlotHolds, base, tearing] at h
    rw [SlotHolds, base]
    cases moves with
    | take taken =>
      cases taken <;> cases pending : G.hold.pending? <;>
        simp [Act.effect, Teardown.ofTaken, Death.hasTaken]
    | find taken seen => cases seen <;> exact h
    | signal taken seen => exact h
    | hear => cases ‹Teardown› <;> exact h
    | _ => exact h

theorem Reached.slotHolds (h : Reached permits G) : G.SlotHolds := by
  induction h with
  | start => rfl
  | step reached _ step ih => exact ih.step reached step

theorem Reached.slot_of_dead (h : Reached permits G) (rest : G.AtRest)
    (dead : G.shared.state = .dead) : G.shared.slot = none := by
  have slot := h.slotHolds
  obtain ⟨taken, found, complete⟩ := rest.complete h dead
  rw [SlotHolds, rest.hold] at slot
  rw [slot, base, complete]
  rfl

theorem Reached.slot_of_live (h : Reached permits G) (rest : G.AtRest)
    (live : G.shared.state ≠ .dead) : G.shared.slot = G.accepted := by
  have slot := h.slotHolds
  rw [SlotHolds, rest.hold] at slot
  rw [slot, base, h.mortal.teardown_of_live live]
  rfl

end Account

/-! ## After a run -/

/-- The grant of leadership that an operation is about. -/
def Operation.grant? : Operation → Option Grant
  | lead grant => some grant
  | _ => none

theorem Hold.grant?_of_accepted? {h : Hold} {grant : Grant} (accepted : h.accepted? = some grant) :
    h.grant? = some grant := by
  cases h <;> simp_all [accepted?, grant?]

theorem Access.exists_gives (a : Access) : ∃ x, a.Gives x := by
  cases a with
  | lock l => cases l <;> exact ⟨_, {}, _, rfl⟩
  | _ => exact ⟨_, {}, _, rfl⟩

instance (c : Call) : Nonempty c.Answer := by
  cases c with
  | createDriver => exact ⟨⟨0⟩⟩
  | startDriver | joinDriver | stopDriver => exact ⟨.running⟩
  | readFrameworkId => exact ⟨.ok none⟩
  | prepareStorage | repairStorage | stopStorage | advertise | leave => exact ⟨.ok ()⟩
  | arm | post | shutdown | notice => exact ⟨()⟩

/-- A place keeps its grant. -/
theorem Place.grant?_after {r : Place} {e : Act} (allowed : r.Allows e) :
    (r.after e).hold.grant? = r.hold.grant? ∨ r.hold.grant? = none := by
  cases active : r.death.isActive with
  | true => exact .inl (by rw [Place.after_of_active active])
  | false =>
    rw [Place.after_of_inactive active]
    exact (Hold.grant?_after ((Place.allows_of_inactive active).mp allowed).1).imp And.left And.left

section Ends

variable {own : Option Grant} {r : Place}

theorem Place.grant?_of_after {e : Act} (allowed : r.Allows e)
    (h : (r.after e).hold.grant? = none ∨ (r.after e).hold.grant? = own) :
    r.hold.grant? = none ∨ r.hold.grant? = own := by
  rcases r.grant?_after allowed with same | none
  · rwa [same] at h
  · exact .inl none

/-- A program that ends with a grant has no other on its way. -/
theorem Follows.grant? {ends : Outcome → Place → Prop} {rest : Program Outcome}
    (h : Follows ends r rest) (ended : ∀ outcome r, ends outcome r → r.hold.grant? = own) :
    r.hold.grant? = none ∨ r.hold.grant? = own := by
  induction rest generalizing r with
  | done outcome => exact .inr (ended _ _ h)
  | unwind => exact h.elim
  | access a next ih =>
    obtain ⟨x, gives⟩ := a.exists_gives
    exact Place.grant?_of_after (h x gives).1 (ih x (h x gives).2)
  | note entry next ih => exact ih h
  | call c next ih =>
    obtain ⟨x⟩ := (inferInstance : Nonempty c.Answer)
    exact Place.grant?_of_after h.1 (Place.grant?_of_after (h.2 x).1 (ih _ (h.2 x).2))

theorem Operation.Ends.grant? {operation : Operation} {outcome : Outcome}
    (h : operation.Ends outcome r) : r.hold.grant? = operation.grant? := by
  rw [h.2]
  cases operation <;> rfl

theorem Actor.Fits.grant? {x : Actor} (fits : x.Fits) :
    x.place.hold.grant? = none ∨ x.place.hold.grant? = x.operation.grant? := by
  obtain ⟨o, task, r⟩ := x
  cases task with
  | running rest => exact Follows.grant? fits fun _ _ ended => ended.grant?
  | calling c next =>
    obtain ⟨y⟩ := (inferInstance : Nonempty c.Answer)
    exact Place.grant?_of_after (fits.2 y).1
      (Follows.grant? (fits.2 y).2 fun _ _ ended => ended.grant?)

end Ends

theorem eq_of_countP_eq_one {α : Type} {q : α → Bool} {l : List α} {x y : α}
    (once : l.countP q = 1) (hx : x ∈ l) (hy : y ∈ l) (qx : q x = true) (qy : q y = true) :
    x = y := by
  rw [List.countP_eq_length_filter, List.length_eq_one_iff] at once
  obtain ⟨a, only⟩ := once
  have hx : x ∈ l.filter q := List.mem_filter.mpr ⟨hx, qx⟩
  have hy : y ∈ l.filter q := List.mem_filter.mpr ⟨hy, qy⟩
  rw [only, List.mem_singleton] at hx hy
  rw [hx, hy]

namespace Pool

/-- The grants that were given to the replica. -/
def grants (p : Pool) : List Grant := p.tasks.filterMap fun entry => entry.1.grant?

/-- The operation with the given number is over, and how it ended. -/
def Ended (p : Pool) (i : Nat) (operation : Operation) (outcome : Outcome) : Prop :=
  p.tasks[i]?.map (fun entry => (entry.1, entry.2.outcome?)) = some (operation, some outcome)

instance {p : Pool} {i : Nat} {operation : Operation} {outcome : Outcome} :
    Decidable (p.Ended i operation outcome) :=
  inferInstanceAs (Decidable (_ = _))

theorem Ended.task {p : Pool} {i : Nat} {operation : Operation} {outcome : Outcome}
    (h : p.Ended i operation outcome) :
    p.tasks[i]? = some (operation, .running (.done outcome)) := by
  obtain ⟨⟨operation', task⟩, hi, eq⟩ := Option.map_eq_some_iff.mp h
  obtain ⟨same, finished⟩ := Prod.mk.inj eq
  obtain rfl : operation' = operation := same
  dsimp only [Task.outcome?] at finished
  split at finished
  · cases finished
    exact hi
  · cases finished

theorem Ended.count_grants {p : Pool} {i : Nat} {grant : Grant} {outcome : Outcome}
    (h : p.Ended i (.lead grant) outcome) (distinct : p.grants.Nodup) :
    p.grants.count grant = 1 := by
  rw [distinct.count, if_pos]
  exact List.mem_filterMap.mpr ⟨_, List.mem_of_getElem? h.task, rfl⟩

end Pool

namespace Adequate

variable {p : Pool} {l : List Actor} {G : Account} {permits : Account → Act → Prop}
  {grant : Grant} {i j : Nat} {outcome : Outcome}

theorem slot_of_dead (h : Adequate p l G) (reached : Account.Reached permits G)
    (quiet : p.isQuiet = true) (dead : p.shared.state = .dead) : p.shared.slot = none := by
  rw [← h.shared] at dead ⊢
  exact reached.slot_of_dead (h.atRest quiet) dead

theorem slot_of_live (h : Adequate p l G) (reached : Account.Reached permits G)
    (quiet : p.isQuiet = true) (live : p.shared.state ≠ .dead) : p.shared.slot = G.accepted := by
  rw [← h.shared] at live ⊢
  exact reached.slot_of_live (h.atRest quiet) live

theorem count_leaves (h : Adequate p l G) :
    p.trace.calls.count (.leave grant) = G.acts.countP (·.leaves? == some grant) := by
  rw [h.acts, List.countP_map, Trace.calls, List.count_filterMap]
  refine List.countP_congr fun ⟨_, e⟩ _ => ?_
  cases e with
  | called c => cases c <;> simp [Act.call?, Act.leaves?]
  | accessed | answered => simp [Act.call?, Act.leaves?]

theorem grant?_of_quiet (h : Adequate p l G) (quiet : p.isQuiet = true) {x : Actor}
    (mem : x ∈ l) : x.place.hold.grant? = x.operation.grant? := by
  obtain ⟨outcome, -, ended⟩ := h.ends quiet mem
  exact ended.grant?

theorem grants_eq (h : Adequate p l G) : p.grants = l.filterMap (·.operation.grant?) := by
  rw [Pool.grants, h.tasks, List.filterMap_map]
  rfl

theorem count_grants (h : Adequate p l G) (quiet : p.isQuiet = true) :
    p.grants.count grant = G.acts.countP (·.offers? == some grant) := by
  rw [← h.accounts.offers, h.grants_eq, List.count_filterMap]
  refine List.countP_congr fun x mem => ?_
  rw [h.grant?_of_quiet quiet mem]

/-- A grant that was given was left, unless it is in the slot. -/
theorem count_leaves_add (h : Adequate p l G) (reached : Account.Reached permits G)
    (quiet : p.isQuiet = true) (grant : Grant) :
    p.trace.calls.count (.leave grant) + grant.count p.shared.slot = p.grants.count grant := by
  have rest := h.atRest quiet
  have law := reached.conserves grant
  have torn : grant.count G.teardown.owes? = 0 := by
    have finished := rest.teardown
    cases death : G.teardown with
    | none | complete => rfl
    | dying | tearing => rw [death] at finished; cases finished
  rw [Account.Conserves, rest.hold, torn, ← h.count_leaves, ← h.count_grants quiet, h.shared] at law
  exact law.symm

/-- Which grant is led by is told by the task that accepted it. -/
theorem accepted_of_ended (h : Adequate p l G) (ended : p.Ended i (.lead grant) (.ok ())) :
    ∃ x, l[i]? = some x ∧ x.place.hold.accepted? = some grant := by
  have ended := ended.task
  rw [h.tasks, List.getElem?_map, Option.map_eq_some_iff] at ended
  obtain ⟨⟨o, task, r⟩, hi, eq⟩ := ended
  cases eq
  have fits := h.fits _ (List.mem_of_getElem? hi)
  exact ⟨_, hi, by rw [fits.ends.2]; rfl⟩

/-- The grant of a task is the one that its operation is about. -/
theorem grant?_of_mem (h : Adequate p l G) {x : Actor} (mem : x ∈ l) :
    x.place.hold.grant? = none ∨ x.place.hold.grant? = x.operation.grant? :=
  (h.fits x mem).grant?

theorem operation_of_accepted? (h : Adequate p l G) {x : Actor} (mem : x ∈ l)
    (accepted : x.place.hold.accepted? = some grant) : x.operation.grant? = some grant := by
  have own := Hold.grant?_of_accepted? accepted
  rcases h.grant?_of_mem mem with none | same
  · rw [none] at own
    cases own
  · rw [← same, own]

/-- A grant that was given once is not both refused and accepted. -/
theorem ne_accepted_of_refused (h : Adequate p l G) (once : p.grants.count grant = 1)
    {e : LifecycleError} (ended : p.Ended i (.lead grant) (.error e)) :
    G.accepted ≠ some grant := by
  intro accepted
  obtain ⟨j, y, hj, eq⟩ := h.accounts.accepted.exists_of_ne (by rw [accepted]; simp)
  rw [accepted] at eq
  have ended := ended.task
  rw [h.tasks, List.getElem?_map, Option.map_eq_some_iff] at ended
  obtain ⟨⟨o, task, r⟩, hi, same⟩ := ended
  cases same
  have hx := List.mem_of_getElem? hi
  have hy := List.mem_of_getElem? hj
  have refused : r.hold = .closed grant false := (h.fits _ hx).ends.2
  rw [h.grants_eq, List.count_filterMap] at once
  have both := eq_of_countP_eq_one once hx hy (by simp [Operation.grant?])
    (by rw [h.operation_of_accepted? hy eq]; simp)
  rw [← both, refused] at eq
  cases eq

end Adequate

/-- When every operation is over, each rejected grant was left exactly once. One grant at most was
accepted; it is in the slot and was not left, or the replica is dead and it was left exactly once.
A dead replica holds no grant. -/
theorem grants_left_once {schedule : List Choice} {p : Pool}
    (run : Pool.run Rule.calm schedule = some p) (quiet : p.isQuiet = true)
    (distinct : p.grants.Nodup) :
    (∀ i grant e, p.Ended i (.lead grant) (.error e) →
      p.trace.calls.count (.leave grant) = 1) ∧
    (∀ i j grant grant', p.Ended i (.lead grant) (.ok ()) → p.Ended j (.lead grant') (.ok ()) →
      i = j) ∧
    (∀ i grant, p.Ended i (.lead grant) (.ok ()) →
      if p.shared.state = .dead then p.trace.calls.count (.leave grant) = 1
      else p.trace.calls.count (.leave grant) = 0 ∧ p.shared.slot = some grant) ∧
    (p.shared.state = .dead → p.shared.slot = none) := by
  obtain ⟨l, G, adequate, reached⟩ := Pool.accounted run
  have law := adequate.count_leaves_add reached quiet
  have dead := adequate.slot_of_dead reached quiet
  have live := adequate.slot_of_live reached quiet
  refine ⟨fun i grant e ended => ?_, fun i j grant grant' hi hj => ?_, fun i grant ended => ?_,
    dead⟩
  · have once := ended.count_grants distinct
    have out : p.shared.slot ≠ some grant := by
      intro held
      have alive : p.shared.state ≠ .dead := fun h => by simp [dead h] at held
      rw [live alive] at held
      exact adequate.ne_accepted_of_refused once ended held
    have := law grant
    rw [once, Grant.count, if_neg out] at this
    exact this
  · obtain ⟨x, hx, accepted⟩ := adequate.accepted_of_ended hi
    obtain ⟨y, hy, accepted'⟩ := adequate.accepted_of_ended hj
    exact adequate.accounts.accepted.eq_of_ne hx hy (by rw [accepted]; simp)
      (by rw [accepted']; simp)
  · have := law grant
    rw [ended.count_grants distinct] at this
    split
    · next h =>
      rw [dead h] at this
      exact this
    · next h =>
      obtain ⟨x, hx, accepted⟩ := adequate.accepted_of_ended ended
      have slot : p.shared.slot = some grant := by
        rw [live h, ← accepted]
        refine ((adequate.accounts.accepted.idle_or_eq hx).resolve_left ?_).symm
        rw [accepted]
        simp
      rw [slot, Grant.count, if_pos rfl] at this
      exact ⟨by omega, slot⟩

/-- Of two grants one is accepted and one refused, and both are left once the replica is dead. -/
theorem grants_left_once_of_overtaken :
    ∃ p, p ∈ Pool.run Rule.calm Choice.overtaken ∧ p.isQuiet = true ∧ p.grants.Nodup ∧
      p.trace.calls.count (.leave ⟨"a"⟩) = 1 ∧ p.trace.calls.count (.leave ⟨"b"⟩) = 1 := by
  have ends : ∃ p, p ∈ Pool.run Rule.calm Choice.overtaken ∧ p.isQuiet = true ∧
      p.grants.Nodup ∧ p.shared.state = .dead ∧ p.Ended 1 (.lead ⟨"a"⟩) (.ok ()) ∧
        p.Ended 2 (.lead ⟨"b"⟩)
          (.error (.illegalMove ⟨.dead, .leaderAwaitingRegistration⟩)) := by
    decide +kernel
  obtain ⟨p, run, quiet, distinct, dead, led, unled⟩ := ends
  obtain ⟨refused, -, accepted, -⟩ := grants_left_once run quiet distinct
  have left := accepted 1 ⟨"a"⟩ led
  rw [if_pos dead] at left
  exact ⟨p, run, quiet, distinct, left, refused 2 ⟨"b"⟩ _ unled⟩

end Tenure.Lifecycle
