import Tenure.Proofs.DriverGate

/-!
# What a state promises

A work is done after its state is installed, so a replica passes through states whose promises do
not hold yet. When no operation is under way, every work that has begun is over, and one that went
wrong has killed the replica. So the state of a replica that lives tells what it has called for.
-/
namespace Tenure.Lifecycle

/-! ## Works that were lost -/

/-- Whether an act installs `dead` or finds the replica dead. -/
def Act.seesDead : Act → Bool
  | accessed (.install .dead) (.ok _) => true
  | accessed .readState .dead => true
  | _ => false

def Preparing.isLost : Preparing → Bool
  | failed _ => true
  | _ => false

def Leading.isLost : Leading → Bool
  | barred _ _ | turnedAway _ _ | failed _ => true
  | _ => false

def Confirming.isLost : Confirming → Bool
  | retracting | ignored | failed _ => true
  | _ => false

section Moves

variable {e : Act}

theorem Preparing.Moves.isLost {p p' : Preparing} (h : Moves p e p') (lost : p'.isLost = true) :
    p.isLost = true ∨ e.seesDead = true := by
  cases h with
  | fail => exact .inr rfl
  | stay => exact .inl lost
  | _ => cases lost

theorem Leading.Moves.isLost {l l' : Leading} (h : Moves l e l') (lost : l'.isLost = true) :
    l.isLost = true ∨ e.seesDead = true := by
  cases h with
  | bar | fail => exact .inr rfl
  | turnAway => exact .inl rfl
  | stay => exact .inl lost
  | _ => cases lost

theorem Confirming.Moves.isLost {c c' : Confirming} (h : Moves c e c') (lost : c'.isLost = true) :
    c.isLost = true ∨ e.seesDead = true := by
  cases h with
  | ignore | retract | fail => exact .inr rfl
  | unmark => exact .inl rfl
  | stay => exact .inl lost
  | _ => cases lost

end Moves

/-- The grant that is advertised. -/
def Confirming.grant? : Confirming → Option Grant
  | holding grant | advertising grant | advertised grant => some grant
  | _ => none

theorem Act.Possible.refused {s : Shared} {target : State} {refusal : IllegalMove}
    (h : Possible s (.accessed (.install target) (.error refusal))) :
    Edge.between? s.state target = none := by
  obtain ⟨s', h⟩ := h
  simp only [Access.apply, Shared.install, State.move, Option.some.injEq] at h
  cases between : Edge.between? s.state target <;> simp_all

/-- When no grant is being taken up, the slot holds an accepted grant only. -/
theorem Account.Reached.accepted_of_slot {G : Account} {permits : Account → Act → Prop}
    (h : Reached permits G) (settled : G.hold.isPending = false) {grant : Grant}
    (slot : G.shared.slot = some grant) : G.accepted = some grant := by
  have holds := h.slotHolds
  have idle : G.hold.pending? = none := by
    cases hold : G.hold <;> simp_all [Hold.isPending, Hold.pending?]
  simp only [SlotHolds, idle, slot, base] at holds
  split at holds
  · cases holds
  · exact holds.symm

namespace Account

variable {G G' : Account} {e : Act} {permits : Account → Act → Prop}

/-- Some work has found the replica dead or killed it. -/
def Lost (G : Account) : Prop :=
  G.preparing.isLost = true ∨ G.leading.isLost = true ∨ G.confirming.isLost = true

theorem Step.lost (h : Step G e G') (lost : G'.Lost) : G.Lost ∨ e.seesDead = true := by
  rcases lost with lost | lost | lost
  · rcases h.preparing with turn | ⟨-, same⟩
    · exact ((Preparing.moves_of_turn turn).isLost lost).imp_left .inl
    · exact .inl (.inl (same ▸ lost))
  · rcases h.leading with turn | ⟨-, same⟩
    · exact ((Leading.moves_of_turn turn).isLost lost).imp_left fun lost => .inr (.inl lost)
    · exact .inl (.inr (.inl (same ▸ lost)))
  · rcases h.confirming with turn | ⟨-, same⟩
    · exact ((Confirming.moves_of_turn turn).isLost lost).imp_left fun lost => .inr (.inr lost)
    · exact .inl (.inr (.inr (same ▸ lost)))

theorem Step.dead (h : Step G e G') (sees : e.seesDead = true) : G'.shared.state = .dead := by
  have possible := h.possible
  rw [h.state]
  fun_cases Act.seesDead e
  · rfl
  · obtain ⟨s', apply⟩ := possible
    exact congrArg Prod.fst (Option.some.inj apply)
  · simp_all [Act.seesDead]

/-- A dead replica stays dead. -/
theorem Step.dead_of_dead (h : Step G e G') (dead : G.shared.state = .dead) :
    G'.shared.state = .dead := by
  rw [h.shared]
  exact h.possible.dead dead

theorem Reached.dead_of_lost (h : Reached permits G) (lost : G.Lost) : G.shared.state = .dead := by
  induction h with
  | start => obtain lost | lost | lost := lost <;> cases lost
  | step _ _ step ih =>
    rcases step.lost lost with before | sees
    · exact step.dead_of_dead (ih before)
    · exact step.dead sees

/-! ## What is behind a stage -/

/-- A replica that asked to stand for election was ready to, or had gone further. -/
theorem Reached.rank_of_stood (h : Reached permits G) (stood : G.preparing = .stood) :
    State.storagePrepared.rank ≤ G.shared.state.rank := by
  induction h with
  | start => cases stood
  | @step G G' e reached _ step ih =>
    rcases step.preparing with turn | ⟨-, same⟩
    · have moves := Preparing.moves_of_turn turn
      rw [stood] at moves
      generalize before : G.preparing = p at moves
      cases moves with
      | stay => exact Nat.le_trans (ih before) step.rank_le
      | stand x =>
        have begun := reached.preparing_told.rank_le (by rw [before]; simp)
        cases x with
        | ok edge =>
          rw [step.state]
          exact Nat.le_refl _
        | error refusal =>
          have refused := step.possible.refused
          have le := step.rank_le
          cases state : G.shared.state <;> simp_all [State.rank] <;> first | omega | cases refused
    · exact Nat.le_trans (ih (same ▸ stood)) step.rank_le

/-- An accepted grant stays accepted. -/
theorem Step.accepted (h : Step G e G') (reached : Reached permits G) {grant : Grant}
    (accepted : G.accepted = some grant) : G'.accepted = some grant := by
  rcases h.hold with turn | ⟨-, -, same⟩
  · have edge := h.edge
    generalize G'.hold = hold at turn
    generalize G'.accepted = accepted' at turn ⊢
    cases turn with
    | other => exact accepted
    | own allowed =>
      rcases Hold.accepted?_after _ _ allowed with same | ⟨installed, -⟩
      · rw [same, reached.accepted_or, accepted]
      · simp [reached.unaccepted (edge _ installed)] at accepted
  · rw [same, accepted]

/-- The grant that was found in the slot to be advertised is the one that was accepted. -/
theorem Reached.accepted_of_confirming (h : Reached inTurn G) {grant : Grant}
    (held : G.confirming.grant? = some grant) : G.accepted = some grant := by
  induction h with
  | start => cases held
  | @step G G' e reached permitted step ih =>
    rcases step.confirming with turn | ⟨-, same⟩
    · refine step.accepted reached ?_
      have moves := Confirming.moves_of_turn turn
      have possible := step.possible
      generalize before : G.confirming = c at moves ih
      generalize G'.confirming = c' at moves held
      cases moves with
      | hold grant' =>
        obtain rfl : grant' = grant := Option.some.inj held
        obtain ⟨s', apply⟩ := possible
        have slot : G.shared.slot = some grant' := congrArg Prod.fst (Option.some.inj apply)
        exact reached.accepted_of_slot (permitted _ rfl) slot
      | advertise | advertised => exact ih held
      | stay => exact ih held
      | _ => cases held
    · exact step.accepted reached (ih (same ▸ held))

end Account

/-! ## Records of the works -/

namespace Call

def preparesStorage : Call → Bool
  | prepareStorage => true
  | _ => false

def createsDriver : Call → Bool
  | createDriver _ => true
  | _ => false

def arms : Call → Bool
  | arm _ => true
  | _ => false

def advertises : Call → Bool
  | advertise _ => true
  | _ => false

def posts : Call → Bool
  | post _ => true
  | _ => false

end Call

/-- Whether an act makes one of some calls or hears its answer. -/
def Act.isAbout (q : Call → Bool) : Act → Bool
  | accessed _ _ => false
  | called c | answered c _ => q c

/-- An act that is about some calls. -/
abbrev Act.about? (q : Call → Bool) (e : Act) : Option Act := Option.guard (·.isAbout q) e

def Preparing.record : Preparing → List Act
  | unbegun | due => []
  | asked => [.called .prepareStorage]
  | ready | stood => [.called .prepareStorage, .answered .prepareStorage (some (.ok ()))]
  | doomed e | failed e => [.called .prepareStorage, .answered .prepareStorage (some (.error e))]

namespace Leading

/-- How the driver was created. -/
def creation : Leading → List Act
  | creating id => [.called (.createDriver id)]
  | created id driver | published id driver | timed id driver | armed id driver
  | entered id driver | barred id driver | cleared id driver | starting id driver
  | started id driver | running id driver | led id driver | turnedAway id driver =>
    [.called (.createDriver id), .answered (.createDriver id) (some driver)]
  | _ => []

/-- The timers that were armed. -/
def timers : Leading → List Call
  | timed _ _ => [.arm .registration]
  | armed _ _ | entered _ _ | barred _ _ | cleared _ _ | starting _ _ | started _ _
  | running _ _ | turnedAway _ _ => [.arm .registration, .arm .failover]
  | led _ driver => [.arm .registration, .arm .failover, .arm (.join driver)]
  | _ => []

end Leading

namespace Confirming

/-- The events that were posted. -/
def posts : Confirming → List Call
  | .posted | holding _ | advertising _ | advertised _ | doomed _ | failed _ =>
    [.post .schedulerActive]
  | _ => []

/-- How a grant was advertised. -/
def adverts : Confirming → List Act
  | advertising grant => [.called (.advertise grant)]
  | advertised grant =>
    [.called (.advertise grant), .answered (.advertise grant) (some (.ok ()))]
  | doomed (some (grant, e)) | failed (some (grant, e)) =>
    [.called (.advertise grant), .answered (.advertise grant) (some (.error e))]
  | _ => []

end Confirming

section Records

variable {e : Act}

theorem Act.about?_of_isAbout {q : Call → Bool} (h : e.isAbout q = false) : e.about? q = none := by
  simp [about?, h]

theorem Act.callTo?_of_isAbout {q : Call → Bool} (h : e.isAbout q = false) :
    e.callTo? q = none := by
  cases e with
  | accessed | answered => rfl
  | called c => simpa [callTo?, call?, Option.filter, isAbout] using h

/-- A dying task makes no call of a work. -/
theorem Act.isAbout_of_isMortal {q : Call → Bool}
    (apart : ∀ c, (called c).isMortal = true → q c = false) (h : e.isMortal = true) :
    e.isAbout q = false := by
  cases e with
  | accessed => rfl
  | called c => exact apart c h
  | answered c => exact apart c (by cases c <;> first | rfl | cases h)

/-- An act that is no part of a work is not about the calls of the work. -/
theorem Act.about?_eq_none {q : Call → Bool} {work : Act → Bool} (other : work e = false)
    (own : ∀ c, q c = true → work (.called c) = true ∧ ∀ x, work (.answered c x) = true) :
    e.about? q = none := by
  refine about?_of_isAbout (Bool.eq_false_iff.mpr fun about => ?_)
  rw [Bool.eq_false_iff] at other
  cases e with
  | accessed => cases about
  | called c => exact other (own c about).1
  | answered c x => exact other ((own c about).2 x)

theorem Act.callTo?_eq_none {q : Call → Bool} {work : Act → Bool} (other : work e = false)
    (own : ∀ c, q c = true → work (.called c) = true) : e.callTo? q = none := by
  cases e with
  | accessed | answered => rfl
  | called c =>
    refine callTo?_of_isAbout (Bool.eq_false_iff.mpr fun about => ?_)
    exact Bool.eq_false_iff.mp other (own c about)

theorem Preparing.Moves.record {p p' : Preparing} (h : Moves p e p') :
    p'.record = p.record ++ (e.about? Call.preparesStorage).toList := by
  cases h with
  | stay _ other =>
    rw [Act.about?_eq_none other, Option.toList_none, List.append_nil]
    intro c asked
    cases c <;> first | exact ⟨rfl, fun _ => rfl⟩ | cases asked
  | _ => rfl

theorem Leading.Moves.creation {l l' : Leading} (h : Moves l e l') :
    l'.creation = l.creation ++ (e.about? Call.createsDriver).toList := by
  cases h with
  | stay _ other =>
    rw [Act.about?_eq_none other, Option.toList_none, List.append_nil]
    intro c asked
    cases c <;> first | exact ⟨rfl, fun _ => rfl⟩ | cases asked
  | _ => rfl

theorem Leading.Moves.timers {l l' : Leading} (h : Moves l e l') :
    l'.timers = l.timers ++ (e.callTo? Call.arms).toList := by
  cases h with
  | stay _ other =>
    rw [Act.callTo?_eq_none other, Option.toList_none, List.append_nil]
    intro c asked
    cases c <;> first | rfl | cases asked
  | _ => rfl

theorem Confirming.Moves.posts {c c' : Confirming} (h : Moves c e c') :
    c'.posts = c.posts ++ (e.callTo? Call.posts).toList := by
  cases h with
  | stay _ other =>
    rw [Act.callTo?_eq_none other, Option.toList_none, List.append_nil]
    intro c asked
    cases c <;> first | rfl | cases asked
  | fail refusal => rfl
  | _ => rfl

theorem Confirming.Moves.adverts {c c' : Confirming} (h : Moves c e c') :
    c'.adverts = c.adverts ++ (e.about? Call.advertises).toList := by
  cases h with
  | stay _ other =>
    rw [Act.about?_eq_none other, Option.toList_none, List.append_nil]
    intro c asked
    cases c <;> first | exact ⟨rfl, fun _ => rfl⟩ | cases asked
  | fail refusal => cases refusal <;> rfl
  | _ => rfl

end Records

namespace Account

variable {G : Account} {permits : Account → Act → Prop}

theorem Reached.preparing_record (h : Reached permits G) :
    G.acts.filterMap (Act.about? Call.preparesStorage) = G.preparing.record :=
  h.record Account.preparing Preparing.record _ rfl
    (fun _ _ allowed => (Preparing.moves_of_allows allowed).record)
    (fun _ mortal => Act.about?_of_isAbout (Act.isAbout_of_isMortal
      (fun c dying => by cases c <;> first | rfl | cases dying) mortal))
    fun _ _ _ step => step.preparing

theorem Reached.creation (h : Reached permits G) :
    G.acts.filterMap (Act.about? Call.createsDriver) = G.leading.creation :=
  h.record Account.leading Leading.creation _ rfl
    (fun _ _ allowed => (Leading.moves_of_allows allowed).creation)
    (fun _ mortal => Act.about?_of_isAbout (Act.isAbout_of_isMortal
      (fun c dying => by cases c <;> first | rfl | cases dying) mortal))
    fun _ _ _ step => step.leading

theorem Reached.timers (h : Reached permits G) :
    G.acts.filterMap (Act.callTo? Call.arms) = G.leading.timers :=
  h.record Account.leading Leading.timers _ rfl
    (fun _ _ allowed => (Leading.moves_of_allows allowed).timers)
    (fun _ mortal => Act.callTo?_of_isAbout (Act.isAbout_of_isMortal
      (fun c dying => by cases c <;> first | rfl | cases dying) mortal))
    fun _ _ _ step => step.leading

theorem Reached.posts (h : Reached permits G) :
    G.acts.filterMap (Act.callTo? Call.posts) = G.confirming.posts :=
  h.record Account.confirming Confirming.posts _ rfl
    (fun _ _ allowed => (Confirming.moves_of_allows allowed).posts)
    (fun _ mortal => Act.callTo?_of_isAbout (Act.isAbout_of_isMortal
      (fun c dying => by cases c <;> first | rfl | cases dying) mortal))
    fun _ _ _ step => step.confirming

theorem Reached.adverts (h : Reached permits G) :
    G.acts.filterMap (Act.about? Call.advertises) = G.confirming.adverts :=
  h.record Account.confirming Confirming.adverts _ rfl
    (fun _ _ allowed => (Confirming.moves_of_allows allowed).adverts)
    (fun _ mortal => Act.about?_of_isAbout (Act.isAbout_of_isMortal
      (fun c dying => by cases c <;> first | rfl | cases dying) mortal))
    fun _ _ _ step => step.confirming

/-! ## Works that are over -/

theorem AtRest.stood (rest : G.AtRest) (h : Reached permits G) (live : G.shared.state ≠ .dead)
    (begun : State.preparingStorage.rank ≤ G.shared.state.rank) : G.preparing = .stood := by
  have finished := rest.preparing
  have started := h.preparing_told.begun begun live
  cases stage : G.preparing with
  | stood => rfl
  | unbegun => exact (started stage).elim
  | failed => exact (live (h.dead_of_lost (.inl (by rw [stage]; rfl)))).elim
  | _ => simp [stage, Preparing.isOver] at finished

theorem AtRest.led (rest : G.AtRest) (h : Reached permits G) (live : G.shared.state ≠ .dead)
    (begun : State.leaderAwaitingRegistration.rank ≤ G.shared.state.rank) :
    ∃ id driver, G.leading = .led id driver := by
  have finished := rest.leading
  have started := h.leading_told.begun begun live
  cases stage : G.leading with
  | led id driver => exact ⟨id, driver, rfl⟩
  | unbegun => exact (started stage).elim
  | turnedAway | failed =>
    exact (live (h.dead_of_lost (.inr (.inl (by rw [stage]; rfl))))).elim
  | _ => simp [stage, Leading.isOver] at finished

theorem AtRest.advertised (rest : G.AtRest) (h : Reached permits G)
    (live : G.shared.state ≠ .dead)
    (begun : State.registeredLeader.rank ≤ G.shared.state.rank) :
    ∃ grant, G.confirming = .advertised grant := by
  have finished := rest.confirming
  have started := h.confirming_told.begun begun live
  cases stage : G.confirming with
  | advertised grant => exact ⟨grant, rfl⟩
  | unbegun => exact (started stage).elim
  | ignored | failed => exact (live (h.dead_of_lost (.inr (.inr (by rw [stage]; rfl))))).elim
  | _ => simp [stage, Confirming.isOver] at finished

end Account

/-! ## Promises -/

namespace Trace

/-- What was done and heard of some calls. -/
def about (q : Call → Bool) (t : Trace) : List Act := (t.map Prod.snd).filter (Act.isAbout q)

end Trace

namespace Pool

/-- The storage was made ready once. -/
def Prepared (p : Pool) : Prop :=
  p.trace.about Call.preparesStorage =
    [.called .prepareStorage, .answered .prepareStorage (some (.ok ()))]

/-- Nothing was done to lead. -/
structure Unled (p : Pool) : Prop where
  slot : p.shared.slot = none
  created : p.trace.about Call.createsDriver = []
  armed : p.trace.calls.filter Call.arms = []

/-- One driver was created. It is the one that others refer to, it was started once and was not
stopped, and each timer was armed once. -/
structure Led (p : Pool) (id : Option String) (driver : DriverId) : Prop where
  created : p.trace.about Call.createsDriver =
    [.called (.createDriver id), .answered (.createDriver id) (some driver)]
  published : p.shared.driver = some driver
  driving : p.trace.calls.filter Call.isDriving = [.startDriver driver]
  armed : p.trace.calls.filter Call.arms =
    [.arm .registration, .arm .failover, .arm (.join driver)]

/-- The grant is held. It was advertised once, and leadership was made known once. -/
structure Confirmed (p : Pool) (grant : Grant) : Prop where
  slot : p.shared.slot = some grant
  advertised : p.trace.about Call.advertises =
    [.called (.advertise grant), .answered (.advertise grant) (some (.ok ()))]
  posted : p.trace.calls.filter Call.posts = [.post .schedulerActive]

/-- What a replica promises by its state while no operation is under way. -/
def Keeps (p : Pool) : State → Prop
  | .idle => p.Unled
  | .preparingStorage => False
  | .storagePrepared => p.Unled ∧ p.Prepared
  | .leaderAwaitingRegistration => ∃ id driver, p.Led id driver
  | .registeredLeader | .active =>
    (∃ id driver, p.Led id driver) ∧ ∃ grant, p.Confirmed grant
  | .dead => True

end Pool

namespace Adequate

variable {p : Pool} {l : List Actor} {G : Account} {permits : Account → Act → Prop}

theorem about (h : Adequate p l G) (q : Call → Bool) :
    p.trace.about q = G.acts.filterMap (Act.about? q) := by
  rw [Trace.about, ← h.acts, List.filterMap_eq_filter]

variable (h : Adequate p l G) (reached : Account.Reached permits G) (rest : G.AtRest)
  (live : G.shared.state ≠ .dead)

include h reached rest live

theorem prepared (begun : State.preparingStorage.rank ≤ G.shared.state.rank) : p.Prepared := by
  rw [Pool.Prepared, h.about, reached.preparing_record, rest.stood reached live begun]
  rfl

theorem unled (before : G.shared.state.rank < State.leaderAwaitingRegistration.rank) :
    p.Unled := by
  have unbegun : G.leading = .unbegun := Classical.byContradiction fun begun => by
    have := reached.leading_told.rank_le begun
    omega
  have unaccepted : G.accepted = none := Classical.byContradiction fun accepted => by
    have := reached.rank_of_accepted accepted
    omega
  constructor
  · rw [← h.shared, reached.slot_of_live rest live, unaccepted]
  · rw [h.about, reached.creation, unbegun]
    rfl
  · rw [h.calls, reached.timers, unbegun]
    rfl

theorem led (begun : State.leaderAwaitingRegistration.rank ≤ G.shared.state.rank) :
    ∃ id driver, p.Led id driver := by
  obtain ⟨id, driver, led⟩ := rest.led reached live begun
  refine ⟨id, driver, ?_⟩
  constructor
  · rw [h.about, reached.creation, led]
    rfl
  · rw [← h.shared, reached.driver, led]
    rfl
  · rw [h.calls, reached.driving, led, reached.mortal.teardown_of_live live]
    rfl
  · rw [h.calls, reached.timers, led]
    rfl

end Adequate

theorem Adequate.confirmed_of_accepted {p : Pool} {l : List Actor} {G : Account} {grant : Grant}
    {permits : Account → Act → Prop} (h : Adequate p l G) (reached : Account.Reached permits G)
    (rest : G.AtRest) (live : G.shared.state ≠ .dead)
    (advertised : G.confirming = .advertised grant) (accepted : G.accepted = some grant) :
    p.Confirmed grant := by
  constructor
  · rw [← h.shared, reached.slot_of_live rest live, accepted]
  · rw [h.about, reached.adverts, advertised]
    rfl
  · rw [h.calls, reached.posts, advertised]
    rfl

theorem Adequate.confirmed {p : Pool} {l : List Actor} {G : Account} (h : Adequate p l G)
    (reached : Account.Reached Account.inTurn G) (rest : G.AtRest)
    (live : G.shared.state ≠ .dead)
    (begun : State.registeredLeader.rank ≤ G.shared.state.rank) :
    ∃ grant, p.Confirmed grant := by
  obtain ⟨grant, advertised⟩ := rest.advertised reached live begun
  have accepted : G.accepted = some grant :=
    reached.accepted_of_confirming (by rw [advertised]; rfl)
  exact ⟨grant, h.confirmed_of_accepted reached rest live advertised accepted⟩

/-- When no operation is under way, a replica that was used by one caller at a time and from
inside its own calls keeps what its state promises, whatever its collaborators answered. -/
theorem state_promise_kept {schedule : List Choice} {p : Pool}
    (run : Pool.run Rule.reentrant schedule = some p) (quiet : p.isQuiet = true) :
    p.Keeps p.shared.state := by
  obtain ⟨l, G, adequate, reached⟩ := Pool.accounted_in_turn run
  have rest := adequate.atRest quiet
  have prepared := adequate.prepared reached rest
  have unled := adequate.unled reached rest
  have led := adequate.led reached rest
  have confirmed := adequate.confirmed reached rest
  have stood := rest.stood reached
  have rank := reached.rank_of_stood
  rw [← adequate.shared]
  generalize G.shared.state = s at prepared unled led confirmed stood rank
  cases s with
  | idle => exact unled (by simp) (by decide)
  | preparingStorage =>
    have le := rank (stood (by simp) (by decide))
    exact absurd le (by decide)
  | storagePrepared =>
    exact ⟨unled (by simp) (by decide), prepared (by simp) (by decide)⟩
  | leaderAwaitingRegistration => exact led (by simp) (by decide)
  | registeredLeader | active =>
    exact ⟨led (by simp) (by decide), confirmed (by simp) (by decide)⟩
  | dead => trivial

/-- A replica that is registered before it has a driver has one when it comes to rest. -/
theorem state_promise_kept_of_confirmedEarly :
    ∃ p, p ∈ Pool.run Rule.reentrant Choice.confirmedEarly ∧ p.isQuiet = true ∧
      p.shared.state = .registeredLeader ∧ p.Keeps .registeredLeader := by
  have ends : ∃ p, p ∈ Pool.run Rule.reentrant Choice.confirmedEarly ∧ p.isQuiet = true ∧
      p.shared.state = .registeredLeader := by
    decide +kernel
  obtain ⟨p, run, quiet, state⟩ := ends
  have kept := state_promise_kept run quiet
  rw [state] at kept
  exact ⟨p, run, quiet, state, kept⟩

end Tenure.Lifecycle
