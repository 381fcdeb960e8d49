import Tenure.Proofs.Alone

/-!
# What panics leave behind

Beside every task of a pool there is a stance that its program survives from. The stances say
together which locks are held and how far the one teardown has come. What the teardown puts down
in the trace is told by how far it has come, even if a panic cuts it short.
-/
namespace Tenure.Lifecycle

/-! ## How a parting goes on -/

namespace Parting

/-- A parting without what comes before the teardown. -/
def teardown : Parting → Parting
  | dying => none
  | d => d

/-- Whether the task is in the teardown. -/
def isActive : Parting → Bool
  | tearing _ | fleeing _ => true
  | _ => false

def taken? : Parting → Option (Option Grant)
  | tearing stage | fleeing stage | parted stage => stage.taken?
  | _ => .none

def found? : Parting → Option (Option DriverId)
  | tearing stage | fleeing stage | parted stage => stage.found?
  | _ => .none

/-- The calls of the teardown so far but for the leave. -/
def closing : Parting → List Call
  | tearing stage | fleeing stage => stage.closing
  | parted stage => stage.closing ++ [.shutdown]
  | _ => []

end Parting

/-- An act that does nothing of a teardown. -/
structure Act.IsAside (e : Act) : Prop where
  taken : e.taken? = none
  found : e.found? = none
  closing : e.callTo? Call.isClosing = none

theorem Act.isAside_of_live {e : Act} (live : Death.none.Allows e) : e.IsAside :=
  ⟨taken?_of_live live, found?_of_live live, closing_of_live live⟩

namespace Parting

/-- All that a parting can come to. -/
inductive Moves : Parting → Act → Parting → Prop where
  | stay {d : Parting} {e : Act} (aside : e.IsAside) (lives : e.installs? ≠ some .dead)
      (unclaimed : ∀ won, e ≠ .accessed .claimTeardown won)
      (silent : d.isActive = true → e.call? = Option.none) : Moves d e d
  | die (edge : Edge) : Moves none (.accessed (.install .dead) (.ok edge)) dying
  | claim (won : Bool) :
      Moves dying (.accessed .claimTeardown won) (if won then tearing .begun else none)
  | tear {stage next : Teardown} {e : Act} (moves : stage.Moves e (.tearing next)) :
      Moves (tearing stage) e (tearing next)
  | flee {stage : Teardown} {c : Call} :
      Moves (tearing stage) (.answered c .none) (fleeing stage)
  | signal {stage : Teardown} {d : Parting} (active : d = tearing stage ∨ d = fleeing stage) :
      Moves d (.called .shutdown) (parted stage)

/-- Before and after its teardown a task does what any task may do. -/
theorem live_of_allows {d : Parting} {e : Act} (ended : d.isOver = true) (allowed : d.Allows e) :
    Death.none.Allows e := by
  cases d with
  | dying | tearing | fleeing => cases ended
  | none | parted =>
    cases e with
    | answered => trivial
    | called c => cases c <;> trivial
    | accessed a x =>
      cases a with
      | install target => cases target <;> first | rfl | trivial
      | _ => trivial

theorem moves_of_ended {d : Parting} {e : Act} (ended : d.isOver = true) (allowed : d.Allows e)
    (lives : e.installs? ≠ some .dead) : d.Moves e (d.after e) := by
  have live := live_of_allows ended allowed
  have still : d.after e = d := by
    cases d with
    | dying | tearing | fleeing => cases ended
    | parted => rfl
    | none =>
      cases e with
      | called | answered => rfl
      | accessed a x =>
        cases a with
        | install target => cases target <;> cases x <;> first | rfl | exact (lives rfl).elim
        | _ => rfl
  rw [still]
  refine .stay (Act.isAside_of_live live) lives ?_ fun active => ?_
  · rintro won rfl
    exact live
  · cases d with
    | tearing | fleeing => cases ended
    | none | dying | parted => cases active

theorem moves_of_tearing {stage : Teardown} {e : Act} {d : Death} (moves : stage.Moves e d)
    (unanswered : ∀ c x, e ≠ .answered c x) :
    (tearing stage).Moves e ((tearing stage).after e) := by
  cases moves with
  | hear => exact (unanswered _ _ rfl).elim
  | signal => exact .signal (.inl rfl)
  | take taken => exact .tear (.take taken)
  | leave grant => exact .tear (.leave grant)
  | enter taken => exact .tear (.enter taken)
  | find taken seen => exact .tear (.find taken seen)
  | stop taken driver => exact .tear (.stop taken driver)
  | exit taken seen => exact .tear (.exit taken seen)
  | halt taken seen => exact .tear (.halt taken seen)
  | clear taken seen => exact .tear (.clear taken seen)

theorem moves_of_allows {d : Parting} {e : Act} (allowed : d.Allows e) : d.Moves e (d.after e) := by
  cases d with
  | none =>
    by_cases dies : e.installs? = some .dead
    · obtain ⟨edge, rfl⟩ := Act.installs?_eq_some_iff.mp dies
      exact .die edge
    · exact moves_of_ended rfl allowed dies
  | parted =>
    refine moves_of_ended rfl allowed fun dies => ?_
    obtain ⟨edge, rfl⟩ := Act.installs?_eq_some_iff.mp dies
    cases allowed
  | dying =>
    cases e with
    | answered => exact .stay ⟨rfl, rfl, rfl⟩ nofun nofun nofun
    | called c =>
      cases c with
      | notice => exact .stay ⟨rfl, rfl, rfl⟩ nofun nofun nofun
      | _ => exact allowed.elim
    | accessed a won =>
      cases a with
      | claimTeardown => exact .claim won
      | _ => exact allowed.elim
  | tearing stage =>
    cases e with
    | called | accessed =>
      rw [Allows] at allowed
      · exact moves_of_tearing (Teardown.moves_of_allows allowed) nofun
      · nofun
    | answered c x =>
      cases x with
      | none => exact .flee
      | some x =>
        have still : (tearing stage).after (.answered c (some x)) = tearing stage := by
          cases stage <;> rfl
        rw [still]
        exact .stay ⟨rfl, rfl, rfl⟩ nofun nofun fun _ => rfl
  | fleeing stage =>
    cases e with
    | answered => exact .stay ⟨rfl, rfl, rfl⟩ nofun nofun fun _ => rfl
    | called c =>
      cases c with
      | shutdown => exact .signal (.inr rfl)
      | _ => exact allowed.elim
    | accessed a x =>
      cases a with
      | unlock l =>
        cases l with
        | driver => exact .stay ⟨rfl, rfl, rfl⟩ nofun nofun fun _ => rfl
        | grants => exact allowed.elim
      | _ => exact allowed.elim

/-! ## What a task puts down of its teardown -/

/-- The acts of a task, by how far it has come: its teardown calls for what it has to, between the
claim and the signal. -/
def Told : Parting → List Act → Prop
  | tearing stage, acts | fleeing stage, acts =>
    ∃ before during, acts = before ++ .accessed .claimTeardown true :: during ∧
      during.filterMap Act.call? = stage.calls
  | parted stage, acts =>
    ∃ before during after,
      acts = before ++ .accessed .claimTeardown true :: during ++ .called .shutdown :: after ∧
        during.filterMap Act.call? = stage.calls
  | _, _ => True

theorem Told.step {d d' : Parting} {e : Act} {acts : List Act} (h : d.Told acts)
    (moves : d.Moves e d') : d'.Told (acts ++ [e]) := by
  cases moves with
  | die => trivial
  | claim won =>
    cases won with
    | false => trivial
    | true => exact ⟨acts, [], rfl, rfl⟩
  | tear moves =>
    obtain ⟨before, during, rfl, calls⟩ := h
    refine ⟨before, during ++ [e], by simp, ?_⟩
    rw [filterMap_append_singleton, calls]
    exact moves.calls.symm
  | @flee stage c =>
    obtain ⟨before, during, rfl, calls⟩ := h
    refine ⟨before, during ++ [.answered c .none], by simp, ?_⟩
    rw [filterMap_append_singleton, calls]
    exact List.append_nil _
  | signal active =>
    obtain rfl | rfl := active <;>
      (obtain ⟨before, during, rfl, calls⟩ := h; exact ⟨before, during, [], by simp, calls⟩)
  | stay _ _ _ silent =>
    cases d with
    | none | dying => trivial
    | tearing | fleeing =>
      obtain ⟨before, during, rfl, calls⟩ := h
      exact ⟨before, during ++ [e], by simp, by simpa [silent rfl] using calls⟩
    | parted =>
      obtain ⟨before, during, after, rfl, calls⟩ := h
      exact ⟨before, during, after ++ [e], by simp, calls⟩

/-! ## The one teardown -/

/-- Where the teardown stands after an act of whatever task. -/
inductive Turns (d : Parting) (e : Act) : Parting → Prop where
  | aside (aside : e.IsAside) (unclaimed : e ≠ .accessed .claimTeardown true) : Turns d e d
  | begin (first : d = none) (act : e = .accessed .claimTeardown true) : Turns d e (tearing .begun)
  | own (d' : Parting) (begun : d ≠ none) (begun' : d' ≠ none) (moves : d.Moves e d') : Turns d e d'

variable {d d' : Parting} {e : Act}

theorem Moves.taken? (h : d.Moves e d') :
    d'.taken?.toList = d.taken?.toList ++ e.taken?.toList := by
  cases h with
  | stay aside => simp [aside.taken]
  | tear moves => exact moves.taken?
  | claim won => cases won <;> simp [Parting.taken?, Teardown.taken?, Act.taken?]
  | signal active => obtain rfl | rfl := active <;> simp [Parting.taken?, Act.taken?]
  | _ => simp [Parting.taken?, Act.taken?]

theorem Moves.found? (h : d.Moves e d') :
    d'.found?.toList = d.found?.toList ++ e.found?.toList := by
  cases h with
  | stay aside => simp [aside.found]
  | tear moves => exact moves.found?
  | claim won => cases won <;> simp [Parting.found?, Teardown.found?, Act.found?]
  | signal active => obtain rfl | rfl := active <;> simp [Parting.found?, Act.found?]
  | _ => simp [Parting.found?, Act.found?]

theorem Moves.closing (h : d.Moves e d') :
    d'.closing = d.closing ++ (e.callTo? Call.isClosing).toList := by
  cases h with
  | stay aside => simp [aside.closing]
  | tear moves => exact moves.closing
  | claim won =>
    cases won <;> simp [Parting.closing, Teardown.closing, Act.callTo?, Act.call?]
  | signal active =>
    obtain rfl | rfl := active <;>
      simp [Parting.closing, Act.callTo?, Act.call?, Option.filter, Call.isClosing]
  | _ => simp [Parting.closing, Act.callTo?, Act.call?]

/-- What acts put down of a teardown is what the teardown has put down. -/
theorem Turns.record {β : Type} (h : d.Turns e d') (record : Parting → List β)
    {adds : Act → Option β} (begun : record (tearing .begun) = record none)
    (claim : adds (.accessed .claimTeardown true) = Option.none)
    (aside : e.IsAside → adds e = Option.none)
    (moves : d.Moves e d' → record d' = record d ++ (adds e).toList) :
    record d' = record d ++ (adds e).toList := by
  cases h with
  | aside still _ => simp [aside still]
  | begin first act => simp [first, act, begun, claim]
  | own _ _ _ moved => exact moves moved

theorem Turns.ne_none (h : d.Turns e d') (begun : d ≠ none) : d' ≠ none := by
  cases h with
  | aside => exact begun
  | begin => simp
  | own _ _ begun' => exact begun'

end Parting

/-- Only the claim begins a teardown, and it finds that none has begun. -/
theorem Parting.Moves.teardown {d d' : Parting} {e : Act} (h : d.Moves e d')
    (outside : d.teardown = .none) :
    e = .accessed .claimTeardown true ∧ d' = .tearing .begun ∨
      e.IsAside ∧ e ≠ .accessed .claimTeardown true ∧ d'.teardown = .none := by
  cases h with
  | stay aside _ unclaimed => exact .inr ⟨aside, unclaimed true, outside⟩
  | die => exact .inr ⟨⟨rfl, rfl, rfl⟩, nofun, rfl⟩
  | claim won =>
    cases won with
    | true => exact .inl ⟨rfl, rfl⟩
    | false => exact .inr ⟨⟨rfl, rfl, rfl⟩, nofun, rfl⟩
  | tear | flee => cases outside
  | signal active => obtain rfl | rfl := active <;> cases outside

/-- In the teardown a task stays in it. -/
theorem Parting.Moves.stays {d d' : Parting} {e : Act} (h : d.Moves e d')
    (inside : d.teardown ≠ .none) : d.teardown = d ∧ d'.teardown = d' ∧ d' ≠ .none := by
  cases h with
  | stay =>
    cases d with
    | none | dying => exact (inside rfl).elim
    | tearing | fleeing | parted => exact ⟨rfl, rfl, nofun⟩
  | die | claim => exact (inside rfl).elim
  | tear | flee => exact ⟨rfl, rfl, nofun⟩
  | signal active => obtain rfl | rfl := active <;> exact ⟨rfl, rfl, nofun⟩

/-- Who asks for the teardown has installed `dead`. -/
theorem Parting.Moves.dying_of_claim {d d' : Parting} {won : Bool}
    (h : d.Moves (.accessed .claimTeardown won) d') : d = .dying := by
  cases h with
  | claim => rfl
  | stay _ _ unclaimed => exact (unclaimed won rfl).elim
  | tear moves => cases moves

theorem Parting.Moves.of_dying {d d' : Parting} {e : Act} (h : d.Moves e d')
    (dying : d = .dying) : d' = .dying ∨ ∃ won, e = .accessed .claimTeardown won := by
  cases h with
  | stay => exact .inl dying
  | claim won => exact .inr ⟨won, rfl⟩
  | die | tear | flee => cases dying
  | signal active => obtain rfl | rfl := active <;> cases dying

theorem Parting.Moves.dying {d d' : Parting} {e : Act} (h : d.Moves e d') (dying : d' = .dying) :
    d = .dying ∨ e.installs? = some .dead := by
  cases h with
  | stay => exact .inl dying
  | die => exact .inr rfl
  | claim won => cases won <;> cases dying
  | tear | flee | signal => cases dying

theorem Parting.Moves.of_dead {d d' : Parting} {e : Act} (h : d.Moves e d')
    (dies : e.installs? = some .dead) : d' = .dying := by
  cases h with
  | die => rfl
  | stay _ lives => exact (lives dies).elim
  | claim | flee | signal => cases dies
  | tear moves => rw [Act.installs?_eq_none_of_isMortal moves.isMortal] at dies; cases dies

theorem Act.tornDown_effect (s : Shared) (e : Act) :
    (e.effect s).tornDown = true ↔
      s.tornDown = true ∨ ∃ won, e = accessed .claimTeardown won := by
  by_cases claim : ∃ won, e = accessed .claimTeardown won
  · obtain ⟨won, rfl⟩ := claim
    simp [effect]
  · rw [effect_tornDown fun won h => claim ⟨won, h⟩]
    simp [claim]

theorem Trace.filter_calls_append (i : Nat) (e : Act) (t : Trace) (q : Call → Bool) :
    (t ++ [(i, e)]).calls.filter q = t.calls.filter q ++ (e.callTo? q).toList := by
  have added : (t ++ [(i, e)]).calls = t.calls ++ e.call?.toList :=
    filterMap_append_singleton _ _ _
  rw [added, List.filter_append, Act.callTo?]
  cases e.call? with
  | none => rfl
  | some c => cases h : q c <;> simp [Option.filter, h]

/-! ## Tasks and their stances -/

structure Standing where
  operation : Operation
  task : Task
  stance : Stance := {}

namespace Standing

/-- What is left of a task survives from its stance. -/
def Fits (x : Standing) : Prop :=
  match x.task with
  | .running rest => Survives (fun _ r => r.AtRest) x.stance rest
  | .calling c next =>
    ∀ y, y.isSome = true ∨ c.mayPanic = true →
      Survives (fun _ r => r.AtRest) (x.stance.after (.answered c y)) (next y)

/-- A task that moves does what its stance allows, and fits the stance after it. -/
theorem Fits.moves {o : Operation} {task task' : Task} {r : Stance} {s s' : Shared}
    {act : Option Act} (fits : Fits ⟨o, task, r⟩)
    (careful : ∀ c x, act = some (.answered c x) → x.isSome = true ∨ c.mayPanic = true)
    (h : Pool.Moves s task act s' task') :
    match act with
    | none => s' = s ∧ Fits ⟨o, task', r⟩
    | some e => r.Allows e ∧ e.Possible s ∧ s' = e.effect s ∧ Fits ⟨o, task', r.after e⟩ := by
  cases h with
  | access apply =>
    obtain ⟨allowed, rest⟩ := fits _ ⟨_, _, apply⟩
    exact ⟨allowed, ⟨_, apply⟩, Act.effect_of_apply apply, rest⟩
  | note => exact ⟨rfl, fits⟩
  | call => exact ⟨fits.1, trivial, rfl, fits.2⟩
  | @answer c next x => exact ⟨⟨trivial, trivial⟩, trivial, rfl, fits x (careful c x rfl)⟩

/-- A task that is over holds nothing and owes nothing. -/
theorem Fits.atRest {x : Standing} (fits : x.Fits) (ended : x.task.isOver = true) :
    x.stance.AtRest := by
  obtain ⟨o, task, r⟩ := x
  cases task with
  | calling => cases ended
  | running rest =>
    cases rest with
    | done | unwind => exact fits
    | access | note | call => cases ended

end Standing

section Sole

variable {l : List Standing} {i : Nat} {x : Standing} {e : Act}

/-- A lock that a task takes or gives back is held as the stances say. -/
theorem Sole.locked {s : Shared} {k : Lock} (x' : Standing)
    (h : Sole (fun x : Standing => x.stance.holds k) false l (s.isHeld k)) (hi : l[i]? = some x)
    (keyed : e.Keyed x.stance.holds) (possible : e.Possible s)
    (after : x'.stance = x.stance.after e) :
    Sole (fun x : Standing => x.stance.holds k) false (l.set i x') ((e.effect s).isHeld k) := by
  have holds : x'.stance.holds k = e.holds k (x.stance.holds k) := by
    rw [after, Stance.holds_after]
  rw [Act.isHeld_effect]
  rcases e.holds_cases k with rfl | rfl | still
  · have same : x.stance.holds k = s.isHeld k := by rw [possible.free]; exact keyed
    rw [← same, ← holds]
    exact h.own hi same x'
  · have same : x.stance.holds k = s.isHeld k := by
      rcases h.idle_or_eq hi with free | same
      · rw [show x.stance.holds k = true from keyed] at free
        cases free
      · exact same
    rw [← same, ← holds]
    exact h.own hi same x'
  · rw [still] at holds ⊢
    exact h.stays hi holds

/-- The teardown goes on with its one task. -/
theorem Sole.torn {d : Parting} (x' : Standing)
    (h : Sole (fun x : Standing => x.stance.parting.teardown) .none l d) (hi : l[i]? = some x)
    (moves : x.stance.parting.Moves e x'.stance.parting)
    (first : e = .accessed .claimTeardown true → d = .none) :
    ∃ d', d.Turns e d' ∧
      Sole (fun x : Standing => x.stance.parting.teardown) .none (l.set i x') d' := by
  by_cases outside : x.stance.parting.teardown = .none
  · rcases moves.teardown outside with ⟨act, begun⟩ | ⟨aside, unclaimed, still⟩
    · refine ⟨.tearing .begun, .begin (first act) act, ?_⟩
      have own := h.own hi (outside.trans (first act).symm) x'
      rwa [begun] at own
    · exact ⟨d, .aside aside unclaimed, h.stays hi (still.trans outside.symm)⟩
  · have same := (h.idle_or_eq hi).resolve_left outside
    obtain ⟨eq, eq', begun'⟩ := moves.stays outside
    rw [eq] at same
    subst same
    refine ⟨x'.stance.parting, .own _ (fun none => outside (by rw [none]; rfl)) begun' moves, ?_⟩
    have own := h.own hi eq x'
    rwa [eq'] at own

end Sole

/-- Every task of a pool has a stance that it fits, and the stances together say what is held, and
how far the replica has come with its death. -/
structure Endures (p : Pool) (l : List Standing) (d : Parting) : Prop where
  tasks : p.tasks = l.map fun x => (x.operation, x.task)
  fits : ∀ x ∈ l, x.Fits
  known : ∀ entry ∈ p.trace, entry.1 < l.length
  locks : ∀ k, Sole (fun x : Standing => x.stance.holds k) false l (p.shared.isHeld k)
  teardown : Sole (fun x : Standing => x.stance.parting.teardown) .none l d
  told : ∀ (i : Nat) (x : Standing), l[i]? = some x → x.stance.parting.Told (p.trace.acts i)
  tornDown : p.shared.tornDown = true ↔ d ≠ .none
  /-- A replica is dead because of a task that tears it down or is about to ask for that. -/
  dead : p.shared.state = .dead →
    (∃ (i : Nat) (x : Standing), l[i]? = some x ∧ x.stance.parting = .dying) ∨ d ≠ .none
  dying : ∀ x ∈ l, x.stance.parting = .dying → p.shared.state = .dead
  torn : d ≠ .none → p.shared.state = .dead
  died : p.shared.state = .dead ↔ ∃ entry ∈ p.trace, entry.2.installs? = some .dead
  taken : p.trace.taken = d.taken?.toList
  found : p.trace.found = d.found?.toList
  closing : p.trace.calls.filter Call.isClosing = d.closing

namespace Endures

variable {p : Pool} {l : List Standing} {d : Parting} {i : Nat}

theorem start : Endures {} [] .none where
  tasks := rfl
  fits := by simp
  known := by simp
  locks k := by cases k <;> exact .nil
  teardown := .nil
  told := by simp
  tornDown := by simp
  dead := by simp
  dying := by simp
  torn := by simp
  died := by simp
  taken := rfl
  found := rfl
  closing := rfl

theorem begin (h : Endures p l d) (operation : Operation) :
    Endures { p with tasks := p.tasks ++ [(operation, .running operation.program)] }
      (l ++ [⟨operation, .running operation.program, {}⟩]) d where
  tasks := by simp [h.tasks]
  fits x mem := by
    rcases List.mem_append.mp mem with old | new
    · exact h.fits x old
    · rw [List.mem_singleton.mp new]
      exact operation.survives
  known entry mem := by
    have := h.known entry mem
    simp
    omega
  locks k := (h.locks k).append (by cases k <;> rfl)
  teardown := h.teardown.append rfl
  told := Trace.each_append (P := fun acts (x : Standing) => x.stance.parting.Told acts) h.told
    h.known trivial
  tornDown := h.tornDown
  dead died := (h.dead died).imp_left fun ⟨i, x, hi, dying⟩ =>
    ⟨i, x, by rw [List.getElem?_append_left (List.getElem?_eq_some_iff.mp hi).1]; exact hi, dying⟩
  dying x mem dying := by
    rcases List.mem_append.mp mem with old | new
    · exact h.dying x old dying
    · rw [List.mem_singleton.mp new] at dying
      cases dying
  torn := h.torn
  died := h.died
  taken := h.taken
  found := h.found
  closing := h.closing

variable {operation : Operation} {task task' : Task} {r : Stance} {e : Act}

/-- Another dying task stays one. -/
theorem dying_set {x : Standing} (x' : Standing) (hi : l[i]? = some x)
    (h : ∃ (j : Nat) (y : Standing), l[j]? = some y ∧ y.stance.parting = .dying) :
    x.stance.parting = .dying ∨
      ∃ (j : Nat) (y : Standing), (l.set i x')[j]? = some y ∧ y.stance.parting = .dying := by
  obtain ⟨j, y, hj, dying⟩ := h
  by_cases ij : i = j
  · subst ij
    obtain rfl : x = y := Option.some.inj (hi.symm.trans hj)
    exact .inl dying
  · exact .inr ⟨j, y, by rwa [List.getElem?_set_ne ij], dying⟩

/-- What an act does to the teardown agrees with the variables. -/
theorem claims (h : Endures p l d) (hi : l[i]? = some ⟨operation, task, r⟩)
    (possible : e.Possible p.shared) (moves : r.parting.Moves e (r.after e).parting) {d' : Parting}
    (turns : d.Turns e d') :
    ((e.effect p.shared).tornDown = true ↔ d' ≠ .none) ∧
      (d' ≠ .none → (e.effect p.shared).state = .dead) := by
  rw [Act.tornDown_effect, h.tornDown]
  cases turns with
  | aside _ unclaimed =>
    refine ⟨⟨?_, .inl⟩, fun begun => possible.dead (h.torn begun)⟩
    rintro (begun | ⟨won, rfl⟩)
    · exact begun
    · obtain ⟨s', ⟨⟩⟩ := possible
      rw [← h.tornDown]
      simpa using unclaimed
  | begin first act =>
    subst act
    refine ⟨iff_of_true (.inr ⟨true, rfl⟩) nofun, fun _ => possible.dead ?_⟩
    exact h.dying _ (List.mem_of_getElem? hi) moves.dying_of_claim
  | own _ begun begun' =>
    exact ⟨iff_of_true (.inl begun) begun', fun _ => possible.dead (h.torn begun)⟩

theorem move {act : Option Act} {shared : Shared} (h : Endures p l d)
    (hi : p.tasks[i]? = some (operation, task))
    (careful : ∀ c x, act = some (.answered c x) → x.isSome = true ∨ c.mayPanic = true)
    (moves : Pool.Moves p.shared task act shared task') :
    ∃ l' d', Endures (p.put i operation act shared task') l' d' := by
  rw [h.tasks, List.getElem?_map, Option.map_eq_some_iff] at hi
  obtain ⟨⟨o, t, r⟩, hi, eq⟩ := hi
  cases eq
  have lt : i < l.length := (List.getElem?_eq_some_iff.mp hi).1
  have next := (h.fits _ (List.mem_of_getElem? hi)).moves careful moves
  cases act with
  | none =>
    obtain ⟨rfl, fits⟩ := next
    let x' : Standing := ⟨o, task', r⟩
    refine ⟨l.set i x', d, ?_⟩
    exact
      { tasks := by simp [Pool.put, h.tasks, x']
        fits := fun x mem => (List.mem_or_eq_of_mem_set mem).elim (h.fits x) fun new => new ▸ fits
        known := by simpa [Pool.put] using h.known
        locks := fun k => (h.locks k).stays hi rfl
        teardown := h.teardown.stays hi rfl
        told := by
          refine Trace.each_set (P := fun acts (x : Standing) => x.stance.parting.Told acts) h.told
            ?_ fun j ne => by simp [Pool.put]
          simpa [Pool.put] using h.told i _ hi
        tornDown := h.tornDown
        dead := fun dead => (h.dead dead).imp_left fun dying =>
          (dying_set x' hi dying).elim (fun own => ⟨i, x', by simp [lt], own⟩) id
        dying := fun x mem => (List.mem_or_eq_of_mem_set mem).elim (h.dying x) fun new dying =>
          h.dying _ (List.mem_of_getElem? hi) (by rw [new] at dying; exact dying)
        torn := h.torn
        died := by simpa [Pool.put] using h.died
        taken := by simpa [Pool.put] using h.taken
        found := by simpa [Pool.put] using h.found
        closing := by simpa [Pool.put] using h.closing }
  | some e =>
    obtain ⟨⟨keyed, allowed⟩, possible, rfl, fits⟩ := next
    let x' : Standing := ⟨o, task', r.after e⟩
    have parts : r.parting.Moves e (r.after e).parting := Parting.moves_of_allows allowed
    have first (claim : e = .accessed .claimTeardown true) : d = .none := by
      subst claim
      obtain ⟨s', apply⟩ := possible
      have untorn : p.shared.tornDown ≠ true := by
        intro torn
        simp [Access.apply, torn] at apply
      exact Classical.byContradiction fun begun => untorn (h.tornDown.mpr begun)
    obtain ⟨d', turns, teardown⟩ := h.teardown.torn x' hi parts first
    obtain ⟨tornDown, torn⟩ := h.claims hi possible parts turns
    refine ⟨l.set i x', d', ?_⟩
    exact
      { tasks := by simp [Pool.put, h.tasks, x']
        fits := fun x mem => (List.mem_or_eq_of_mem_set mem).elim (h.fits x) fun new => new ▸ fits
        known := by
          intro entry mem
          rcases List.mem_append.mp mem with old | new
          · simpa using h.known entry old
          · rw [List.mem_singleton.mp new]
            simpa using lt
        locks := fun k => (h.locks k).locked x' hi keyed possible rfl
        teardown
        told := by
          refine Trace.each_set (P := fun acts (x : Standing) => x.stance.parting.Told acts) h.told
            ?_ fun j ne => Trace.acts_append_of_ne ne _ _
          simpa [Pool.put, Trace.acts_append_self] using (h.told i _ hi).step parts
        tornDown
        dead := fun dead => by
          rcases possible.state_eq_dead_iff.mp dead with before | dies
          · rcases h.dead before with dying | begun
            · rcases dying_set x' hi dying with own | other
              · rcases parts.of_dying own with still | claims
                · exact .inl ⟨i, x', by simp [lt], still⟩
                · exact .inr (tornDown.mp ((Act.tornDown_effect _ _).mpr (.inr claims)))
              · exact .inl other
            · exact .inr (turns.ne_none begun)
          · exact .inl ⟨i, x', by simp [lt], parts.of_dead dies⟩
        dying := fun x mem dying => by
          rcases List.mem_or_eq_of_mem_set mem with old | rfl
          · exact possible.dead (h.dying x old dying)
          · rcases parts.dying dying with before | dies
            · exact possible.dead (h.dying _ (List.mem_of_getElem? hi) before)
            · exact possible.state_eq_dead_iff.mpr (.inr dies)
        torn
        died := by
          have died := possible.state_eq_dead_iff
          rw [h.died] at died
          simpa [Pool.put, or_and_right, exists_or] using died
        taken := by
          have added : (p.trace ++ [(i, e)]).taken = p.trace.taken ++ e.taken?.toList :=
            filterMap_append_singleton _ _ _
          rw [turns.record (fun d => d.taken?.toList) rfl rfl Act.IsAside.taken
            Parting.Moves.taken?, ← h.taken]
          exact added
        found := by
          have added : (p.trace ++ [(i, e)]).found = p.trace.found ++ e.found?.toList :=
            filterMap_append_singleton _ _ _
          rw [turns.record (fun d => d.found?.toList) rfl rfl Act.IsAside.found
            Parting.Moves.found?, ← h.found]
          exact added
        closing := by
          have added := Trace.filter_calls_append i e p.trace Call.isClosing
          rw [turns.record Parting.closing rfl rfl Act.IsAside.closing
            Parting.Moves.closing, ← h.closing]
          exact added }

/-- When every operation is over, no lock is held, and a replica is dead because of a teardown that
has signalled. -/
theorem atRest (h : Endures p l d) (quiet : p.isQuiet = true) :
    (∀ k, p.shared.isHeld k = false) ∧ d.isOver = true ∧ (p.shared.state = .dead ↔ d ≠ .none) := by
  have rest (x : Standing) (mem : x ∈ l) : x.stance.AtRest := by
    refine (h.fits x mem).atRest ?_
    rw [Pool.isQuiet, h.tasks, List.all_map, List.all_eq_true] at quiet
    exact quiet x mem
  refine ⟨fun k => ?_, ?_, fun dead => ?_, h.torn⟩
  · refine (h.locks k).of_forall (P := (· = false)) rfl fun x mem => ?_
    cases k with
    | grants => exact (rest x mem).grants
    | driver => exact (rest x mem).driver
  · refine h.teardown.of_forall (P := (·.isOver = true)) rfl fun x mem => ?_
    have ended := (rest x mem).parting
    cases parting : x.stance.parting with
    | none | parted => rfl
    | dying | tearing | fleeing => rw [parting] at ended; cases ended
  · rcases h.dead dead with ⟨i, x, hi, dying⟩ | begun
    · have ended := (rest x (List.mem_of_getElem? hi)).parting
      rw [dying] at ended
      cases ended
    · exact begun

end Endures

/-- Whatever panics, every task of a run has its stance. -/
theorem Pool.endures {schedule : List Choice} {p : Pool}
    (h : Pool.run Rule.panicking schedule = some p) : ∃ l d, Endures p l d := by
  refine Pool.run_induction (motive := fun p => ∃ l d, Endures p l d) ⟨[], .none, .start⟩
    (fun p q choice ih permitted step => ?_) h
  obtain ⟨l, d, endures⟩ := ih
  rcases Pool.step?_cases step with
    ⟨operation, rfl, rfl⟩ | ⟨i, operation, task, act, shared, task', -, answer, hi, moves, rfl⟩
  · exact ⟨_, d, endures.begin operation⟩
  · refine endures.move hi (fun c x answered => ?_) moves
    rw [answer c x answered] at permitted
    simpa [Rule.panicking] using permitted

end Tenure.Lifecycle
