import Tenure.Proofs.Follows
import Tenure.Proofs.Begun
import Tenure.Proofs.Sole

/-!
# Tasks and their places in one account

Beside a task stands the place that the rest of its program follows. The places of all tasks are
in step with an account: each work of the account is that of the one task that is not idle in it.
Whatever a task does at its place, the account can follow.
-/
namespace Tenure.Lifecycle

/-! ## Tasks and their places -/

structure Actor where
  operation : Operation
  task : Task
  place : Place := {}

namespace Actor

/-- What is left of a task follows its place. -/
def Fits (x : Actor) : Prop :=
  match x.task with
  | .running rest => Follows x.operation.Ends x.place rest
  | .calling c next =>
    (c.isReentrant = true → x.place.hold.isPending = false) ∧
      ∀ y, x.place.Allows (.answered c (some y)) ∧
        Follows x.operation.Ends (x.place.after (.answered c (some y))) (next (some y))

theorem settled_of_called {r : Place} {c : Call} (allowed : r.Allows (.called c))
    (settled : r.death.isActive = true → r.hold.isPending = false) (open' : c.isReentrant = true) :
    (r.after (.called c)).hold.isPending = false := by
  cases active : r.death.isActive with
  | true =>
    rw [Place.after_of_active active]
    exact settled active
  | false =>
    rw [Place.after_of_inactive active]
    obtain ⟨hold, -⟩ := (Place.allows_of_inactive active).mp allowed
    cases c with
    | startDriver | notice => cases open'
    | leave grant =>
      obtain ⟨own, accepted, eq⟩ := hold
      rw [eq]
      rfl
    | _ => exact hold

/-- A task that moves does what its place allows, and fits the place after it. -/
theorem Fits.moves {o : Operation} {task task' : Task} {r : Place} {s s' : Shared}
    {act : Option Act} (fits : Fits ⟨o, task, r⟩)
    (settled : r.death.isActive = true → r.hold.isPending = false)
    (calm : ∀ c, act ≠ some (.answered c none)) (h : Pool.Moves s task act s' task') :
    match act with
    | none => s' = s ∧ Fits ⟨o, task', r⟩
    | some e =>
      r.Allows e ∧ e.Possible s ∧ s' = e.effect s ∧ Fits ⟨o, task', r.after e⟩ := by
  cases h with
  | access apply =>
    have here := fits _ ⟨_, _, apply⟩
    exact ⟨here.1, ⟨_, apply⟩, Act.effect_of_apply apply, here.2⟩
  | note => exact ⟨rfl, fits⟩
  | call => exact ⟨fits.1, trivial, rfl, settled_of_called fits.1 settled, fits.2⟩
  | @answer c next x =>
    cases x with
    | none => exact (calm c rfl).elim
    | some x => exact ⟨(fits.2 x).1, trivial, rfl, (fits.2 x).2⟩

/-- A task that is over is where its operation ends. -/
theorem Fits.ends {o : Operation} {outcome : Outcome} {r : Place}
    (fits : Fits ⟨o, .running (.done outcome), r⟩) : o.Ends outcome r := fits

theorem Fits.settled_of_isAside {x : Actor} (fits : x.Fits) (aside : x.task.isAside = true) :
    x.place.hold.isPending = false := by
  obtain ⟨o, task, r⟩ := x
  cases task with
  | calling c next => exact fits.1 aside
  | running rest =>
    cases rest with
    | done outcome =>
      obtain ⟨⟨hold, -⟩, -⟩ := fits.ends
      obtain none | ⟨grant, accepted, closed⟩ := hold
      · rw [none]
        rfl
      · rw [closed]
        rfl
    | unwind => exact fits.elim
    | access | note | call => cases aside

end Actor

/-! ## Places in step with an account -/

/-- The grant that an act offers to the slot. -/
def Act.offers? : Act → Option Grant
  | accessed (.replaceSlot grant) _ => some grant
  | _ => none

theorem Act.offers?_of_isMortal {e : Act} (h : e.isMortal = true) : e.offers? = none := by
  fun_cases isMortal e <;> simp_all [isMortal, offers?]

theorem Act.offers?_of_isHolding {e : Act} (h : e.isHolding = false) : e.offers? = none := by
  fun_cases offers? e
  · cases h
  · rfl

namespace Hold

/-- The grant that a task has offered. -/
def grant? : Hold → Option Grant
  | offered grant _ | refused grant _ | closing grant _ _ | closed grant _ => some grant
  | _ => .none

theorem grant?_after {h : Hold} {e : Act} (allowed : h.Allows e) :
    (h.after e).grant? = h.grant? ∧ e.offers? = .none ∨
      h.grant? = .none ∧ (h.after e).grant? = e.offers? := by
  have moves := moves_of_allows allowed
  generalize h.after e = h' at moves
  cases moves with
  | offer grant previous => exact .inr ⟨rfl, rfl⟩
  | stay other => exact .inl ⟨rfl, Act.offers?_of_isHolding other⟩
  | _ => exact .inl ⟨rfl, rfl⟩

theorem none_aside {e : Act} (other : e.isHolding = false) :
    none.Allows e ∧ none.after e = none := by
  cases e with
  | accessed a x =>
    cases a with
    | install => cases x <;> exact ⟨.inl rfl, rfl⟩
    | lock k | unlock k =>
      cases k with
      | grants => cases other
      | driver => exact ⟨trivial, rfl⟩
    | replaceSlot | withdraw => cases other
    | readSlot => exact ⟨rfl, rfl⟩
    | _ => exact ⟨trivial, rfl⟩
  | called c =>
    cases c with
    | leave => cases other
    | notice => exact ⟨trivial, rfl⟩
    | _ => exact ⟨rfl, rfl⟩
  | answered => exact ⟨trivial, rfl⟩

/-- Without the lock on grants a task can only take the lock. -/
theorem after_of_current_eq_none {h : Hold} {e : Act} (free : h.current = none)
    (allowed : h.Allows e) :
    (∃ x, e = .accessed (.lock .grants) x) ∧ h = none ∨
      h.after e = h ∧ none.Allows e ∧ none.after e = none := by
  have moves := moves_of_allows allowed
  generalize h.after e = h' at moves
  cases moves with
  | enter => exact .inl ⟨⟨(), rfl⟩, rfl⟩
  | stay other => exact .inr ⟨rfl, none_aside other⟩
  | _ => cases free

end Hold

namespace Death

theorem none_allows {d : Death} {e : Act} (inactive : d.isActive = false) (allowed : d.Allows e) :
    none.Allows e := by
  cases d with
  | none => exact allowed
  | complete =>
    simp only [Allows] at allowed ⊢
    split at allowed <;> simp_all
  | dying | tearing => cases inactive

/-- Unless it is dying, a task begins to die or has no part in its death. -/
theorem after_of_inactive {d : Death} {e : Act} (inactive : d.isActive = false)
    (allowed : d.Allows e) :
    e.installs? = some .dead ∧ d = none ∧ d.after e = dying ∨
      e.installs? ≠ some .dead ∧ d.after e = d := by
  cases d with
  | none =>
    by_cases installed : e.installs? = some .dead
    · obtain ⟨edge, rfl⟩ := Act.installs?_eq_some_iff.mp installed
      exact .inl ⟨rfl, rfl, rfl⟩
    · refine .inr ⟨installed, ?_⟩
      rw [after]
      all_goals simp_all [Act.installs?_eq_some_iff]
  | complete =>
    refine .inr ⟨fun installed => ?_, by simp [after]⟩
    obtain ⟨edge, rfl⟩ := Act.installs?_eq_some_iff.mp installed
    cases allowed
  | dying | tearing => cases inactive

/-- A dying task gives its notice and asks for the teardown. -/
theorem dying_allows {e : Act} (allowed : dying.Allows e) :
    (∃ n, e = .called (.notice n) ∨ ∃ x, e = .answered (.notice n) x) ∨
      ∃ won, e = .accessed .claimTeardown won := by
  simp only [Allows] at allowed
  split at allowed <;> simp_all

end Death

theorem Teardown.Moves.teardown {stage : Teardown} {e : Act} {d : Death} (h : stage.Moves e d) :
    d.teardown = d := by
  cases h <;> rfl

theorem Teardown.Moves.isDying {stage : Teardown} {e : Act} {d : Death} (h : stage.Moves e d) :
    d.isDying = false := by
  cases h <;> rfl

/-- A work that could begin now has not begun. -/
theorem Told.eq_idle {σ : Type} {stage idle : σ} {first s : State}
    (told : Told first (stage ≠ idle) s) (live : first ≠ .dead)
    (edge : (Edge.between? s first).isSome = true) : stage = idle := by
  refine Classical.byContradiction fun begun => ?_
  have := told.rank_le begun
  have := (Edge.rank_of_between? edge).resolve_left live
  omega

structure Accounts (l : List Actor) (G : Account) : Prop where
  hold : Sole (·.place.hold.current) .none l G.hold
  accepted : Sole (·.place.hold.accepted?) none l G.accepted
  preparing : Sole (·.place.preparing) .unbegun l G.preparing
  leading : Sole (·.place.leading) .unbegun l G.leading
  confirming : Sole (·.place.confirming) .unbegun l G.confirming
  teardown : Sole (·.place.death.teardown) .none l G.teardown
  dying : l.countP (·.place.death.isDying) = G.dying
  offers (grant : Grant) :
    l.countP (·.place.hold.grant? == some grant) = G.acts.countP (·.offers? == some grant)

/-- A change in an entry is one in the count. -/
theorem countP_set_add {α : Type} (p : α → Bool) {l : List α} {i : Nat} {x : α}
    (hi : l[i]? = some x) (x' : α) :
    (l.set i x').countP p + (p x).toNat = l.countP p + (p x').toNat := by
  obtain ⟨lt, rfl⟩ := List.getElem?_eq_some_iff.mp hi
  have positive : p l[i] = true → 0 < l.countP p := fun hp =>
    List.countP_pos_iff.mpr ⟨_, List.getElem_mem lt, hp⟩
  rw [List.countP_set lt]
  grind

namespace Accounts

variable {l : List Actor} {G : Account} {permits : Account → Act → Prop} {i : Nat} {x x' : Actor}
  {e : Act}

theorem start : Accounts [] {} := by
  constructor <;> first | exact .nil | exact fun _ => rfl | rfl

theorem begin (h : Accounts l G) (fresh : x.place = {}) : Accounts (l ++ [x]) G where
  hold := h.hold.append (by rw [fresh]; rfl)
  accepted := h.accepted.append (by rw [fresh]; rfl)
  preparing := h.preparing.append (by rw [fresh])
  leading := h.leading.append (by rw [fresh])
  confirming := h.confirming.append (by rw [fresh])
  teardown := h.teardown.append (by rw [fresh]; rfl)
  dying := by simpa [fresh, Death.isDying] using h.dying
  offers grant := by simpa [fresh, Hold.grant?] using h.offers grant

/-- While its task does not act, a place stays as it is. -/
theorem same (h : Accounts l G) (hi : l[i]? = some x) (place : x'.place = x.place) :
    Accounts (l.set i x') G where
  hold := h.hold.stays hi (by rw [place])
  accepted := h.accepted.stays hi (by rw [place])
  preparing := h.preparing.stays hi (by rw [place])
  leading := h.leading.stays hi (by rw [place])
  confirming := h.confirming.stays hi (by rw [place])
  teardown := h.teardown.stays hi (by rw [place])
  dying := by
    have := countP_set_add (·.place.death.isDying) hi x'
    have := h.dying
    simp only [place] at *
    omega
  offers grant := by
    have := countP_set_add (·.place.hold.grant? == some grant) hi x'
    have := h.offers grant
    simp only [place] at *
    omega

/-- A dying task moves on in its death alone. -/
theorem mortal {d : Death} {s : Shared} {dying : Nat} {teardown : Death} (h : Accounts l G)
    (hi : l[i]? = some x) (place : x'.place = { x.place with death := d })
    (mortal : e.isMortal = true)
    (torn : Sole (·.place.death.teardown) .none (l.set i x') teardown)
    (count : dying + x.place.death.isDying.toNat = G.dying + d.isDying.toNat) :
    Accounts (l.set i x') { G with shared := s, acts := G.acts ++ [e], dying, teardown } where
  hold := h.hold.stays hi (by rw [place])
  accepted := h.accepted.stays hi (by rw [place])
  preparing := h.preparing.stays hi (by rw [place])
  leading := h.leading.stays hi (by rw [place])
  confirming := h.confirming.stays hi (by rw [place])
  teardown := torn
  dying := by
    have := countP_set_add (·.place.death.isDying) hi x'
    have := h.dying
    simp only [place] at *
    omega
  offers grant := by
    have := countP_set_add (·.place.hold.grant? == some grant) hi x'
    have := h.offers grant
    have none := Act.offers?_of_isMortal mortal
    simp only [place, List.countP_append, List.countP_singleton, none] at *
    simp
    omega

theorem current_hold (h : Accounts l G) : G.hold.current = G.hold := by
  by_cases held : G.hold = .none
  · rw [held]
    rfl
  · obtain ⟨j, y, -, eq⟩ := h.hold.exists_of_ne held
    rw [← eq, Hold.current_current]

/-- A task acts on the grant that is being taken up, or has no part in any. -/
theorem hold_part (h : Accounts l G) (reached : Account.Reached permits G) (hi : l[i]? = some x)
    (possible : e.Possible G.shared) (allowed : x.place.hold.Allows e) :
    x.place.hold = G.hold ∨
      x.place.hold.after e = x.place.hold ∧ Hold.none.Allows e ∧ Hold.none.after e = .none := by
  cases own : x.place.hold.isHeld with
  | true =>
    refine .inl ?_
    rw [← Hold.current_of_isHeld own]
    refine (h.hold.idle_or_eq hi).resolve_left fun free => ?_
    rw [Hold.current_eq_none_iff.mp free] at own
    cases own
  | false =>
    refine (Hold.after_of_current_eq_none (Hold.current_eq_none_iff.mpr own) allowed).imp_left ?_
    rintro ⟨⟨y, rfl⟩, none⟩
    obtain ⟨s', apply⟩ := possible
    rw [none, ← h.current_hold, eq_comm, Hold.current_eq_none_iff, ← reached.grantsHeld]
    cases held : G.shared.grantsHeld with
    | false => rfl
    | true => simp [Access.apply, Shared.isHeld, held] at apply

/-- Grants are taken up by one task at a time, and one is accepted at most. -/
theorem hold_turn (h : Accounts l G) (reached : Account.Reached permits G) (hi : l[i]? = some x)
    (possible : e.Possible G.shared) (allowed : x.place.hold.Allows e)
    (edge : ∀ t, e.installs? = some t → (Edge.between? G.shared.state t).isSome = true)
    (moves : x'.place.hold = x.place.hold.after e) :
    ∃ hold accepted, G.hold.Turn G.accepted e hold accepted ∧
      Sole (·.place.hold.current) .none (l.set i x') hold ∧
      Sole (·.place.hold.accepted?) none (l.set i x') accepted := by
  rcases h.hold_part reached hi possible allowed with own | ⟨still, other, none⟩
  · have held := h.hold.own hi (by rw [own, h.current_hold]) x'
    rw [moves, own] at held
    rw [own] at allowed moves
    refine ⟨_, _, .own allowed, held, ?_⟩
    rcases Hold.accepted?_after _ e allowed with same | ⟨installed, grant, previous, eq, accepted⟩
    · rw [same, reached.accepted_or]
      exact h.accepted.stays hi (by rw [moves, same, own])
    · have first := reached.unaccepted (edge _ installed)
      have begun := h.accepted.own hi (by rw [own, eq, first]; rfl) x'
      simp only [moves, accepted] at begun
      simpa [accepted] using begun
  · refine ⟨_, _, .other other none, h.hold.stays hi ?_, h.accepted.stays hi ?_⟩
    · rw [moves, still]
    · rw [moves, still]

/-- A task that installs `dead` is one more that is dying. -/
theorem live_dying (h : Accounts l G) (hi : l[i]? = some x)
    (inactive : x.place.death.isActive = false) (death : x.place.death.Allows e)
    (moves : x'.place.death = x.place.death.after e) :
    (l.set i x').countP (·.place.death.isDying) =
      G.dying + if e.installs? = some .dead then 1 else 0 := by
  have count := countP_set_add (·.place.death.isDying) hi x'
  have before := h.dying
  rcases Death.after_of_inactive inactive death with ⟨installed, none, dying⟩ | ⟨other, same⟩
  · have was : x.place.death.isDying.toNat = 0 := by rw [none]; rfl
    have now : x'.place.death.isDying.toNat = 1 := by rw [moves, dying]; rfl
    simp only [installed, ↓reduceIte]
    omega
  · simp only [moves, same] at count
    simp only [other, ↓reduceIte]
    omega

/-- The grant of a task is the one that it offered. -/
theorem live_offers (h : Accounts l G) (hi : l[i]? = some x) (allowed : x.place.hold.Allows e)
    (moves : x'.place.hold = x.place.hold.after e) (grant : Grant) :
    (l.set i x').countP (·.place.hold.grant? == some grant) =
      (G.acts ++ [e]).countP (·.offers? == some grant) := by
  have count := countP_set_add (·.place.hold.grant? == some grant) hi x'
  have before := h.offers grant
  simp only [List.countP_append, List.countP_singleton]
  rcases Hold.grant?_after allowed with ⟨same, none⟩ | ⟨none, offers⟩
  · simp only [moves, same, none] at count ⊢
    simp
    omega
  · have was : (x.place.hold.grant? == some grant).toNat = 0 := by rw [none]; rfl
    simp only [moves, offers] at count
    cases offered : e.offers? == some grant with
    | false =>
      simp only [offered, Bool.toNat_false, Bool.false_eq_true, ↓reduceIte] at count ⊢
      omega
    | true =>
      simp only [offered, Bool.toNat_true, ↓reduceIte] at count ⊢
      omega

theorem live (h : Accounts l G) (reached : Account.Reached permits G) (hi : l[i]? = some x)
    (inactive : x.place.death.isActive = false) (allowed : x.place.Allows e)
    (possible : e.Possible G.shared) (place : x'.place = x.place.after e) :
    ∃ G', G.Step e G' ∧ Accounts (l.set i x') G' := by
  obtain ⟨allows, preparing, leading, confirming, death⟩ :=
    (Place.allows_of_inactive inactive).mp allowed
  rw [Place.after_of_inactive inactive] at place
  have edge (t : State) (installed : e.installs? = some t) :
      (Edge.between? G.shared.state t).isSome = true := by
    obtain ⟨edge, rfl⟩ := Act.installs?_eq_some_iff.mp installed
    rw [possible.edge]
    rfl
  obtain ⟨h', a', hold, hold', accepted'⟩ :=
    h.hold_turn reached hi possible allows edge (by rw [place])
  obtain ⟨p', preparing, preparing'⟩ := h.preparing.turn hi x' preparing (by rw [place])
    (Preparing.after_eq_unbegun_iff _ e) fun installed =>
      reached.preparing_told.eq_idle (by simp) (edge _ installed)
  obtain ⟨l', leading, leading'⟩ := h.leading.turn hi x' leading (by rw [place])
    (Leading.after_eq_unbegun_iff _ e) fun installed =>
      reached.leading_told.eq_idle (by simp) (edge _ installed)
  obtain ⟨c', confirming, confirming'⟩ := h.confirming.turn hi x' confirming (by rw [place])
    (Confirming.after_eq_unbegun_iff _ e) fun installed =>
      reached.confirming_told.eq_idle (by simp) (edge _ installed)
  refine ⟨_, .live possible (Death.none_allows inactive death) hold preparing leading confirming,
    hold', accepted', preparing', leading', confirming', h.teardown.stays hi ?_,
    h.live_dying hi inactive death (by rw [place]), h.live_offers hi allows (by rw [place])⟩
  rcases Death.after_of_inactive inactive death with ⟨-, none, dying⟩ | ⟨-, same⟩
  · rw [place, dying, none]
    rfl
  · rw [place, same]

theorem torn {stage : Teardown} (h : Accounts l G) (hi : l[i]? = some x)
    (death : x.place.death = .tearing stage) (allowed : stage.Allows e)
    (possible : e.Possible G.shared)
    (place : x'.place = { x.place with death := stage.after e }) :
    ∃ G', G.Step e G' ∧ Accounts (l.set i x') G' := by
  have tearing : G.teardown = .tearing stage := by
    have := h.teardown.idle_or_eq hi
    simpa [death, Death.teardown, eq_comm] using this
  have torn := h.teardown.own hi (by rw [death, tearing]; rfl) x'
  have moves := Teardown.moves_of_allows allowed
  refine ⟨_, .torn tearing moves possible, h.mortal hi place moves.isMortal ?_ ?_⟩
  · rwa [place, moves.teardown] at torn
  · rw [death, moves.isDying]
    rfl

theorem dies (h : Accounts l G) (reached : Account.Reached permits G) (hi : l[i]? = some x)
    (death : x.place.death = .dying) (allowed : Death.dying.Allows e)
    (possible : e.Possible G.shared)
    (place : x'.place = { x.place with death := Death.dying.after e }) :
    ∃ G', G.Step e G' ∧ Accounts (l.set i x') G' := by
  have count : 0 < G.dying := by
    rw [← h.dying, List.countP_pos_iff]
    exact ⟨x, List.mem_of_getElem? hi, by rw [death]; rfl⟩
  rcases Death.dying_allows allowed with ⟨n, notice⟩ | ⟨won, rfl⟩
  · have same : x'.place = { x.place with death := .dying } := by
      obtain rfl | ⟨y, rfl⟩ := notice <;> exact place
    have mortal : e.isMortal = true := by
      obtain rfl | ⟨y, rfl⟩ := notice <;> rfl
    exact ⟨_, .noticed notice, h.mortal hi same mortal
      (h.teardown.stays hi (by rw [same, death])) (by rw [death])⟩
  · obtain ⟨n, count⟩ := Nat.exists_eq_succ_of_ne_zero (Nat.ne_of_gt count)
    refine ⟨_, .claimed rfl possible count, h.mortal hi place rfl ?_ ?_⟩
    · cases won with
      | false => exact h.teardown.stays hi (by rw [place, death]; rfl)
      | true =>
        have first := reached.mortal.first possible
        have begun := h.teardown.own hi (by rw [death, first]; rfl) x'
        rw [place] at begun
        exact begun
    · rw [death, count]
      cases won <;> rfl

/-- Whoever acts at its place, the account can follow. -/
theorem act (h : Accounts l G) (reached : Account.Reached permits G) (hi : l[i]? = some x)
    (x' : Actor) (allowed : x.place.Allows e) (possible : e.Possible G.shared)
    (place : x'.place = x.place.after e) :
    ∃ G', G.Step e G' ∧ Accounts (l.set i x') G' := by
  cases active : x.place.death.isActive with
  | false => exact h.live reached hi active allowed possible place
  | true =>
    rw [Place.allows_of_active active] at allowed
    rw [Place.after_of_active active] at place
    cases death : x.place.death with
    | none | complete => rw [death] at active; cases active
    | tearing stage =>
      rw [death] at allowed place
      exact h.torn hi death allowed possible place
    | dying =>
      rw [death] at allowed place
      exact h.dies reached hi death allowed possible place

end Accounts

end Tenure.Lifecycle
