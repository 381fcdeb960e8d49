import Mathlib.Data.List.Induction
import Tenure.Proofs.Promises
import Tenure.Proofs.Warrant

/-!
# Whose presence is advertised

A grant is put into the slot before it is known whether it will be accepted, and is taken back if
it is refused; between the two it is in question. A registration that is confirmed meanwhile finds
it in the slot and advertises it, although it is refused. Only then: whatever else is advertised
is the accepted grant.
-/
namespace Tenure.Lifecycle

/-! ## Grants in question -/

/-- The grant that a task has in question after an act. -/
def Act.question (grant : Option Grant) : Act → Option Grant
  | accessed (.replaceSlot offered) _ => some offered
  | accessed (.install _) (.ok _) => none
  | accessed (.withdraw _ _) _ => none
  | _ => grant

/-- The grant that an act finds in the slot. -/
def Act.finds? : Act → Option Grant
  | accessed .readSlot held => held
  | _ => none

namespace Trace

/-- The grant that a task has in question. -/
def question (i : Nat) (t : Trace) : Option Grant := (t.acts i).foldl Act.question none

/-- The grants that were found in the slot while they were in question. -/
def exposed (t : Trace) : List Grant :=
  (List.range t.length).filterMap fun n =>
    (t[n]?.bind fun entry => entry.2.finds?).filter fun grant =>
      (t.take n).any fun entry => question entry.1 (t.take n) == some grant

theorem mem_of_mem_acts {i : Nat} {e : Act} {t : Trace} (mem : e ∈ t.acts i) : (i, e) ∈ t := by
  obtain ⟨⟨j, e'⟩, there, own⟩ := List.mem_filterMap.mp mem
  by_cases ji : j = i
  · subst ji
    obtain rfl : e' = e := by simpa using own
    exact there
  · simp [ji] at own

theorem exists_split_of_mem_acts {i : Nat} {e : Act} {t : Trace} (mem : e ∈ t.acts i) :
    ∃ before after, t = before ++ (i, e) :: after :=
  List.append_of_mem (mem_of_mem_acts mem)

theorem mem_calls_of_mem_about {q : Call → Bool} {c : Call} {t : Trace}
    (mem : .called c ∈ t.about q) : c ∈ t.calls := by
  obtain ⟨entry, mem, eq⟩ := List.mem_map.mp (List.mem_filter.mp mem).1
  exact List.mem_filterMap.mpr ⟨entry, mem, by rw [eq]; rfl⟩

theorem acts_append (i : Nat) (t t' : Trace) : (t ++ t').acts i = t.acts i ++ t'.acts i :=
  List.filterMap_append

theorem mem_exposed {before after : Trace} {i j : Nat} {grant : Grant}
    (question : before.question j = some grant) :
    grant ∈ exposed (before ++ (i, .accessed .readSlot (some grant)) :: after) := by
  have asked : ∃ entry ∈ before, entry.1 = j := by
    by_cases none : before.acts j = []
    · simp [Trace.question, none] at question
    · obtain ⟨e, mem⟩ := List.exists_mem_of_ne_nil _ none
      exact ⟨_, mem_of_mem_acts mem, rfl⟩
  obtain ⟨entry, mem, rfl⟩ := asked
  refine List.mem_filterMap.mpr ⟨before.length, by simp, ?_⟩
  simp only [List.getElem?_append_right (Nat.le_refl _), Nat.sub_self, List.getElem?_cons_zero,
    Option.bind_some, Act.finds?, Option.filter_eq_some_iff, List.take_left, List.any_eq_true,
    beq_iff_eq, true_and]
  exact ⟨entry, mem, question⟩

end Trace

/-! ## Places -/

/-- A pending grant is one in question. -/
theorem Hold.pending_after {h : Hold} {e : Act} (allowed : h.Allows e) :
    (h.after e).pending?.map Prod.fst = e.question (h.pending?.map Prod.fst) := by
  have moves := moves_of_allows allowed
  generalize h.after e = h' at moves
  cases moves with
  | stay other settled =>
    fun_cases Act.question (h.pending?.map Prod.fst) e
    · cases other
    · rw [pending?_eq_none (settled rfl)]
      rfl
    · cases other
    · rfl
  | _ => rfl

theorem Act.question_of_isMortal {e : Act} (mortal : e.isMortal = true) (grant : Option Grant) :
    e.question grant = grant := by
  fun_cases isMortal e <;> simp_all [isMortal, question]

theorem Death.isMortal_of_allows {d : Death} {e : Act} (active : d.isActive = true)
    (allowed : d.Allows e) : e.isMortal = true := by
  cases d with
  | none | complete => cases active
  | dying =>
    rcases dying_allows allowed with ⟨n, rfl | ⟨x, rfl⟩⟩ | ⟨won, rfl⟩ <;> rfl
  | tearing stage => exact (Teardown.moves_of_allows allowed).isMortal

namespace Walk

variable {acts : List Act} {r : Place}

theorem question (h : Walk acts r) :
    acts.foldl Act.question none = r.hold.pending?.map Prod.fst := by
  induction h with
  | start => rfl
  | @step acts r e _ allowed ih =>
    rw [List.foldl_append, ih]
    cases active : r.death.isActive with
    | true =>
      rw [Place.after_of_active active]
      exact Act.question_of_isMortal (Death.isMortal_of_allows active
        ((Place.allows_of_active active).mp allowed)) _
    | false =>
      rw [Place.after_of_inactive active]
      exact (Hold.pending_after ((Place.allows_of_inactive active).mp allowed).1).symm

theorem eq_foldl (h : Walk acts r) : r = acts.foldl Place.after {} := by
  induction h with
  | start => rfl
  | step _ _ ih => rw [List.foldl_append, ← ih]; rfl

theorem snoc {e : Act} {r' : Place} (h : Walk (acts ++ [e]) r') :
    ∃ r, Walk acts r ∧ r.Allows e ∧ r' = r.after e := by
  generalize eq : acts ++ [e] = all at h
  cases h with
  | start => simp at eq
  | step walk allowed =>
    obtain ⟨rfl, same⟩ := List.append_inj' eq rfl
    cases same
    exact ⟨_, walk, allowed, rfl⟩

end Walk

/-- What is accepted stays so. -/
theorem Place.accepted?_after {r : Place} {e : Act} {grant : Grant} (allowed : r.Allows e)
    (accepted : r.hold.accepted? = some grant) : (r.after e).hold.accepted? = some grant := by
  cases active : r.death.isActive with
  | true => rwa [Place.after_of_active active]
  | false =>
    rw [Place.after_of_inactive active]
    rcases Hold.accepted?_after r.hold e ((Place.allows_of_inactive active).mp allowed).1 with
      same | ⟨-, own, previous, offered, -⟩
    · exact same.trans accepted
    · rw [offered] at accepted
      cases accepted

theorem Walk.accepted?_append {acts rest : List Act} {r r' : Place} {grant : Grant}
    (h : Walk acts r) (h' : Walk (acts ++ rest) r') (accepted : r.hold.accepted? = some grant) :
    r'.hold.accepted? = some grant := by
  induction rest using List.reverseRecOn generalizing r' with
  | nil =>
    rw [List.append_nil] at h'
    rwa [h'.eq_foldl, ← h.eq_foldl]
  | append_singleton rest e ih =>
    rw [← List.append_assoc] at h'
    obtain ⟨r₁, walk, allowed, rfl⟩ := h'.snoc
    exact Place.accepted?_after allowed (ih walk)

/-- Whose grant is accepted was granted leadership. -/
theorem Walk.led_of_accepted {acts : List Act} {r : Place} (h : Walk acts r)
    (accepted : r.hold.accepted? ≠ none) :
    .leaderAwaitingRegistration ∈ acts.filterMap Act.installs? := by
  induction h with
  | start => exact (accepted rfl).elim
  | @step acts r e _ allowed ih =>
    rw [filterMap_append_singleton, List.mem_append]
    cases active : r.death.isActive with
    | true =>
      rw [Place.after_of_active active] at accepted
      exact .inl (ih accepted)
    | false =>
      rw [Place.after_of_inactive active] at accepted
      rcases Hold.accepted?_after r.hold e ((Place.allows_of_inactive active).mp allowed).1 with
        same | ⟨installed, -⟩
      · exact .inl (ih fun none => accepted (same.trans none))
      · exact .inr (by simp [installed])

/-! ## Moments -/

namespace Adequate

variable {p q : Pool} {l l' : List Actor} {G G' : Account} {permits : Account → Act → Prop}
  {grant : Grant}

/-- An accepted grant is that of a task that was granted leadership. -/
theorem exists_led_of_accepted (h : Adequate p l G) (accepted : G.accepted = some grant) :
    ∃ i, p.tasks[i]?.map Prod.fst = some (.lead grant) ∧
      .leaderAwaitingRegistration ∈ (p.trace.acts i).filterMap Act.installs? := by
  obtain ⟨i, x, hi, eq⟩ := h.accounts.accepted.exists_of_ne (by rw [accepted]; simp)
  rw [accepted] at eq
  have own := h.operation_of_accepted? (List.mem_of_getElem? hi) eq
  refine ⟨i, ?_, (h.walks i x hi).led_of_accepted (by rw [eq]; simp)⟩
  have operation : x.operation = .lead grant := by
    cases operation : x.operation <;> simp_all [Operation.grant?]
  rw [h.tasks, List.getElem?_map, hi, Option.map_some, Option.map_some, operation]

/-- What was accepted at a moment is accepted later. -/
theorem accepted_of_earlier (h : Adequate q l G) (h' : Adequate p l' G') {rest : Trace}
    (split : p.trace = q.trace ++ rest) (accepted : G.accepted = some grant) :
    G'.accepted = some grant := by
  obtain ⟨i, x, hi, eq⟩ := h.accounts.accepted.exists_of_ne (by rw [accepted]; simp)
  rw [accepted] at eq
  have walk := h.walks i x hi
  have led := walk.led_of_accepted (by rw [eq]; simp)
  obtain ⟨e, mem, -⟩ := List.mem_filterMap.mp led
  have known : i < l'.length := h'.known (i, e) (by
    rw [split]
    exact List.mem_append_left _ (Trace.mem_of_mem_acts mem))
  have later := h'.walks i _ (List.getElem?_eq_getElem known)
  rw [split, Trace.acts_append] at later
  have stays := walk.accepted?_append later eq
  rcases h'.accounts.accepted.idle_or_eq (List.getElem?_eq_getElem known) with none | own
  · rw [none] at stays
    cases stays
  · rw [← own, stays]

/-- What is in the slot is the accepted grant, or it is in question. -/
theorem accepted_or_question (h : Adequate p l G) (reached : Account.Reached permits G)
    (held : p.shared.slot = some grant) :
    G.accepted = some grant ∨ ∃ i, p.trace.question i = some grant := by
  have slot := reached.slotHolds
  rw [← h.shared] at held
  rw [Account.SlotHolds, held] at slot
  cases pending : G.hold.pending? with
  | none =>
    refine .inl ?_
    simp only [pending, Account.base] at slot
    split at slot
    · cases slot
    · exact slot.symm
  | some pair =>
    obtain ⟨own, previous⟩ := pair
    simp only [pending, Option.some.injEq, reduceCtorEq, and_false, or_false] at slot
    obtain ⟨rfl, -⟩ := slot
    obtain ⟨i, x, hi, eq⟩ := h.accounts.hold.exists_of_ne
      (show G.hold ≠ .none from fun none => by rw [none] at pending; cases pending)
    refine .inr ⟨i, ?_⟩
    rw [Trace.question, (h.walks i x hi).question, ← Hold.pending?_current, eq, pending]
    rfl

end Adequate

/-- Whatever is advertised was found in the slot. -/
theorem Pool.exists_found_of_advertised {rule : Rule} {schedule : List Choice} {p : Pool}
    {grant : Grant} (run : Pool.run rule schedule = some p)
    (advertised : .advertise grant ∈ p.trace.calls) :
    ∃ i before after, p.trace = before ++ (i, .accessed .readSlot (some grant)) :: after := by
  obtain ⟨i, before, after, split⟩ := Trace.exists_split_of_mem_calls advertised
  obtain ⟨q, o, task, moment⟩ := Pool.moment run split
  obtain ⟨w, walk, -, entitled⟩ := Operation.warranted.allowed moment
  rw [Call.Entitled, walk.last] at entitled
  obtain ⟨early, late, eq⟩ := Trace.exists_split_of_mem_acts (List.mem_of_getLast? entitled)
  exact ⟨i, early, late ++ (i, .called (.advertise grant)) :: after, by rw [split, eq]; simp⟩

/-- Whatever is advertised is the accepted grant, unless it was found while it was in question. -/
theorem Adequate.accepted_of_advertised {schedule : List Choice} {p : Pool} {l : List Actor}
    {G : Account} {grant : Grant} (h : Adequate p l G)
    (run : Pool.run Rule.calm schedule = some p) (advertised : .advertise grant ∈ p.trace.calls)
    (covered : grant ∉ p.trace.exposed) : G.accepted = some grant := by
  obtain ⟨i, before, after, split⟩ := Pool.exists_found_of_advertised run advertised
  obtain ⟨q, o, task, moment⟩ := Pool.moment run split
  obtain ⟨schedule, earlier⟩ := moment.run
  obtain ⟨l', G', adequate, reached⟩ := Pool.accounted earlier
  rcases adequate.accepted_or_question reached moment.slot_of_readSlot with accepted | ⟨j, question⟩
  · exact adequate.accepted_of_earlier h (by rw [moment.trace, split]) accepted
  · rw [moment.trace] at question
    exact (covered (split ▸ Trace.mem_exposed question)).elim

/-! ## After a run -/

/-- A grant is that of a task that was granted leadership, and is not refused. -/
structure Pool.Accepted (p : Pool) (grant : Grant) : Prop where
  led : ∃ i, p.tasks[i]?.map Prod.fst = some (.lead grant) ∧
    .leaderAwaitingRegistration ∈ (p.trace.acts i).filterMap Act.installs?
  unrefused : ∀ i outcome, p.Ended i (.lead grant) outcome → outcome = .ok ()

/-- Only an accepted grant is advertised, unless one was found in the slot while it was in
question. If none was, a replica that is registered when every operation is over holds and has
advertised the grant that was accepted. -/
theorem advertised_if_accepted {schedule : List Choice} {p : Pool}
    (run : Pool.run Rule.calm schedule = some p) (distinct : p.grants.Nodup) :
    (∀ grant, .advertise grant ∈ p.trace.calls → grant ∉ p.trace.exposed → p.Accepted grant) ∧
    (p.trace.exposed = [] → p.isQuiet = true → p.shared.state = .registeredLeader →
      ∀ i grant, p.Ended i (.lead grant) (.ok ()) → p.Confirmed grant) := by
  obtain ⟨l, G, adequate, reached⟩ := Pool.accounted run
  refine ⟨fun grant advertised covered => ?_, fun covered quiet state i grant ended => ?_⟩
  · have accepted := adequate.accepted_of_advertised run advertised covered
    refine ⟨adequate.exists_led_of_accepted accepted, fun i outcome ended => ?_⟩
    cases outcome with
    | ok => rfl
    | error e =>
      exact (adequate.ne_accepted_of_refused (ended.count_grants distinct) ended accepted).elim
  · have rest := adequate.atRest quiet
    rw [← adequate.shared] at state
    have live : G.shared.state ≠ .dead := by simp [state]
    obtain ⟨found, advertised⟩ := rest.advertised reached live (by simp [state])
    have called : .advertise found ∈ p.trace.calls :=
      Trace.mem_calls_of_mem_about (by
        rw [adequate.about Call.advertises, reached.adverts, advertised]
        exact List.mem_cons_self)
    have accepted := adequate.accepted_of_advertised run called (by simp [covered])
    obtain ⟨x, hi, own⟩ := adequate.accepted_of_ended ended
    obtain rfl : found = grant := by
      rcases adequate.accounts.accepted.idle_or_eq hi with none | same
      · rw [none] at own
        cases own
      · rw [← same, own] at accepted
        exact (Option.some.inj accepted).symm
    exact adequate.confirmed_of_accepted reached rest live advertised accepted

namespace Choice

/-- A registration is confirmed, and a grant is advertised. -/
def confirms (i : Nat) (grant : Grant) : List Choice :=
  [.begin (.registered "f") :: upTo i 4 (.notice (.installed .registeredLeader)) (),
    upTo i 4 (.post .schedulerActive) (), upTo i 2 (.advertise grant) (.ok ()),
    [.advance i]].flatten

/-- Registration is confirmed while one leads and another grant waits to be offered. -/
def rivalled : List Choice :=
  [prepares 0,
    .begin (.lead ⟨"a"⟩) :: upTo 1 5 (.notice (.installed .leaderAwaitingRegistration)) (),
    [.advance 1, .advance 1, .begin (.lead ⟨"b"⟩)], confirms 3 ⟨"a"⟩,
    .answer 1 .repairStorage (some (.ok ())) :: startsDriver 1, [.advance 1],
    upTo 2 5 (.notice .grantRefused) (), upTo 2 2 (.leave ⟨"b"⟩) (.ok ()), [.advance 2]].flatten

/-- Registration is confirmed while one leads and another grant, already refused, is in the slot. -/
def misled : List Choice :=
  [prepares 0,
    .begin (.lead ⟨"a"⟩) :: upTo 1 5 (.notice (.installed .leaderAwaitingRegistration)) (),
    upTo 1 2 .repairStorage (.ok ()), startsDriver 1, [.advance 1],
    .begin (.lead ⟨"b"⟩) :: List.replicate 5 (.advance 2), confirms 3 ⟨"b"⟩,
    .answer 2 (.notice .grantRefused) (some ()) :: upTo 2 2 (.leave ⟨"b"⟩) (.ok ()),
    [.advance 2]].flatten

end Choice

theorem advertised_if_accepted_of_rivalled :
    ∃ p, p ∈ Pool.run Rule.calm Choice.rivalled ∧ p.grants.Nodup ∧ p.isQuiet = true ∧
      p.shared.state = .registeredLeader ∧ p.grants = [⟨"a"⟩, ⟨"b"⟩] ∧ p.Accepted ⟨"a"⟩ ∧
        p.Confirmed ⟨"a"⟩ := by
  have ends : ∃ p, p ∈ Pool.run Rule.calm Choice.rivalled ∧ p.grants.Nodup ∧ p.isQuiet = true ∧
      p.shared.state = .registeredLeader ∧ p.grants = [⟨"a"⟩, ⟨"b"⟩] ∧ p.trace.exposed = [] ∧
        .advertise ⟨"a"⟩ ∈ p.trace.calls ∧ p.Ended 1 (.lead ⟨"a"⟩) (.ok ()) := by
    decide +kernel
  obtain ⟨p, run, distinct, quiet, state, grants, covered, called, ended⟩ := ends
  obtain ⟨accepted, confirmed⟩ := advertised_if_accepted run distinct
  exact ⟨p, run, distinct, quiet, state, grants, accepted _ called (by simp [covered]),
    confirmed covered quiet state 1 _ ended⟩

/-- A refused grant is advertised and then left, and the one that is held never is advertised. -/
theorem refused_advertised_of_misled :
    ∃ p, p ∈ Pool.run Rule.calm Choice.misled ∧ p.grants.Nodup ∧ p.isQuiet = true ∧
      p.shared.state = .registeredLeader ∧ p.Ended 1 (.lead ⟨"a"⟩) (.ok ()) ∧
        p.Ended 2 (.lead ⟨"b"⟩) (.error (.illegalMove
          ⟨.leaderAwaitingRegistration, .leaderAwaitingRegistration⟩)) ∧
        .advertise ⟨"b"⟩ ∈ p.trace.calls ∧ .leave ⟨"b"⟩ ∈ p.trace.calls ∧
          p.shared.slot = some ⟨"a"⟩ ∧ .advertise ⟨"a"⟩ ∉ p.trace.calls := by
  decide +kernel

end Tenure.Lifecycle
