import Tenure.Proofs.Pool

/-!
# Where a task stands

How far a task has come is told by its own acts. A place keeps account of it: with a grant, with
each of the three works of a move, and with a death. `Place.after` moves on with each act, and
`Place.Allows` says which act may come next. No variable of the replica is looked at, so a place
says what a task does and not what comes of it.
-/
namespace Tenure.Lifecycle

/-! ## Grants -/

/-- How far a task has come with a grant. -/
inductive Hold where
  | none
  /-- It has the lock on grants. -/
  | entered
  /-- The grant is in the slot in place of another, and the task asks to lead. -/
  | offered (grant : Grant) (previous : Option Grant)
  /-- The task may not lead, and has not taken the grant back yet. -/
  | refused (grant : Grant) (previous : Option Grant)
  /-- It is settled who leads; what is owed has come out of the slot and is to be left. -/
  | closing (grant : Grant) (accepted : Bool) (owed : Option Grant)
  | closed (grant : Grant) (accepted : Bool)
  deriving DecidableEq

namespace Hold

/-- The grant in the slot is the task's own, and may still be taken back. -/
def isPending : Hold → Bool
  | offered _ _ | refused _ _ => true
  | _ => false

def settle (granted : Bool) : Hold → Hold
  | offered grant previous =>
    if granted then closing grant true previous else refused grant previous
  | h => h

def release : Hold → Hold
  | closing grant accepted _ => closing grant accepted .none
  | h => h

def close : Hold → Hold
  | closing grant accepted _ => closed grant accepted
  | h => h

theorem settle_eq {h : Hold} (settled : h.isPending = false) (granted : Bool) :
    h.settle granted = h := by
  cases h with
  | offered => cases settled
  | _ => rfl

def after (h : Hold) : Act → Hold
  | .accessed (.lock .grants) _ => entered
  | .accessed (.replaceSlot grant) previous => offered grant previous
  | .accessed (.install _) (.ok _) => h.settle true
  | .accessed (.install _) (.error _) => h.settle false
  | .accessed (.withdraw grant _) owed => closing grant false owed
  | .accessed (.unlock .grants) _ => h.close
  | .called (.leave _) => h.release
  | _ => h

/-- A task with a pending grant asks for leadership or takes the grant back, and calls nobody. -/
def Allows (h : Hold) : Act → Prop
  | .accessed (.lock .grants) _ => h = none
  | .accessed (.replaceSlot _) _ => h = entered
  | .accessed (.install target) _ =>
    h.isPending = false ∨
      (∃ grant previous, h = offered grant previous) ∧ target = .leaderAwaitingRegistration
  | .accessed (.withdraw grant previous) _ => h = refused grant previous
  | .accessed (.unlock .grants) _ => ∃ grant accepted, h = closing grant accepted .none
  | .accessed .readSlot _ => h.isPending = false
  | .called (.notice _) => True
  | .called (.leave grant) => ∃ own accepted, h = closing own accepted (some grant)
  | .called _ => h.isPending = false
  | _ => True

def AtRest (h : Hold) : Prop := h = none ∨ ∃ grant accepted, h = closed grant accepted

end Hold

/-- Whether an act is part of what is done with a grant, wherever its task stands. -/
def Act.isHolding : Act → Bool
  | accessed (.lock .grants) _ | accessed (.unlock .grants) _ => true
  | accessed (.replaceSlot _) _ | accessed (.withdraw _ _) _ => true
  | called (.leave _) => true
  | _ => false

/-- Whether an act requests a state. -/
def Act.isRequest : Act → Bool
  | accessed (.install _) _ => true
  | _ => false

namespace Hold

/-- All that a task can do with a grant. -/
inductive Moves : Hold → Act → Hold → Prop where
  | enter : Moves none (.accessed (.lock .grants) ()) entered
  | offer (grant : Grant) (previous : Option Grant) :
      Moves entered (.accessed (.replaceSlot grant) previous) (offered grant previous)
  | lead (grant : Grant) (previous : Option Grant) (edge : Edge) :
      Moves (offered grant previous) (.accessed (.install .leaderAwaitingRegistration) (.ok edge))
        (closing grant true previous)
  | refuse (grant : Grant) (previous : Option Grant) (refusal : IllegalMove) :
      Moves (offered grant previous)
        (.accessed (.install .leaderAwaitingRegistration) (.error refusal)) (refused grant previous)
  | withdraw (grant : Grant) (previous owed : Option Grant) :
      Moves (refused grant previous) (.accessed (.withdraw grant previous) owed)
        (closing grant false owed)
  | leave (own : Grant) (accepted : Bool) (grant : Grant) :
      Moves (closing own accepted (some grant)) (.called (.leave grant)) (closing own accepted .none)
  | exit (grant : Grant) (accepted : Bool) :
      Moves (closing grant accepted .none) (.accessed (.unlock .grants) ()) (closed grant accepted)
  | stay {h : Hold} {e : Act} (other : e.isHolding = false)
      (settled : e.isRequest = true → h.isPending = false) : Moves h e h

/-- An act that is no part of it and no request is allowed wherever the task stands. -/
theorem Moves.aside (h : Hold) {e : Act} (other : e.isHolding = false)
    (unasked : e.isRequest = false) : Moves h e h :=
  .stay other fun request => by simp [unasked] at request

theorem moves_install {h : Hold} {target : State} {x : Except IllegalMove Edge}
    (allowed : h.Allows (.accessed (.install target) x)) :
    Moves h (.accessed (.install target) x) (h.after (.accessed (.install target) x)) := by
  rcases allowed with settled | ⟨⟨grant, previous, rfl⟩, rfl⟩
  · have still : h.after (.accessed (.install target) x) = h := by
      cases x <;> exact settle_eq settled _
    rw [still]
    exact .stay rfl fun _ => settled
  · cases x with
    | ok edge => exact .lead grant previous edge
    | error refusal => exact .refuse grant previous refusal

theorem moves_of_allows {h : Hold} {e : Act} (allowed : h.Allows e) : Moves h e (h.after e) := by
  cases e with
  | accessed a x =>
    cases a with
    | install => exact moves_install allowed
    | replaceSlot grant =>
      obtain rfl : h = entered := allowed
      exact .offer grant x
    | withdraw grant previous =>
      obtain rfl : h = refused grant previous := allowed
      exact .withdraw grant previous x
    | lock k =>
      cases k with
      | grants =>
        obtain rfl : h = none := allowed
        exact .enter
      | driver => exact .aside h rfl rfl
    | unlock k =>
      cases k with
      | grants =>
        obtain ⟨grant, accepted, rfl⟩ := allowed
        exact .exit grant accepted
      | driver => exact .aside h rfl rfl
    | _ => exact .aside h rfl rfl
  | called c =>
    cases c with
    | leave grant =>
      obtain ⟨own, accepted, rfl⟩ := allowed
      exact .leave own accepted grant
    | _ => exact .aside h rfl rfl
  | answered => exact .aside h rfl rfl

end Hold

/-! ## The works of a move -/

/-- How far a task has come with making the storage ready. -/
inductive Preparing where
  | unbegun
  | due
  | asked
  | ready
  /-- It has asked to stand for election, whatever came of it. -/
  | stood
  /-- The storage failed, and the replica has to die. -/
  | doomed (e : StorageError)
  | failed (e : StorageError)

namespace Preparing

def stand : Preparing → Preparing
  | ready => stood
  | p => p

def fail : Preparing → Preparing
  | doomed e => failed e
  | p => p

def after (p : Preparing) : Act → Preparing
  | .accessed (.install .preparingStorage) (.ok _) => due
  | .accessed (.install .storagePrepared) _ => p.stand
  | .accessed (.install .dead) (.ok _) => p.fail
  | .called .prepareStorage => asked
  | .answered .prepareStorage (some (.ok ())) => ready
  | .answered .prepareStorage (some (.error e)) => doomed e
  | _ => p

def Allows (p : Preparing) : Act → Prop
  | .accessed (.install .preparingStorage) _ => p = unbegun
  | .called .prepareStorage => p = due
  | .answered .prepareStorage x => p = asked ∧ x.isSome = true
  | _ => True

def isOver : Preparing → Bool
  | unbegun | stood | failed _ => true
  | _ => false

end Preparing

/-- How far a task has come with taking the lead. -/
inductive Leading where
  | unbegun
  | due
  | repairing
  | repaired
  | reading
  | identified (id : Option String)
  | creating (id : Option String)
  | created (id : Option String) (driver : DriverId)
  | published (id : Option String) (driver : DriverId)
  | timed (id : Option String) (driver : DriverId)
  | armed (id : Option String) (driver : DriverId)
  /-- It has the driver's lock. -/
  | entered (id : Option String) (driver : DriverId)
  | barred (id : Option String) (driver : DriverId)
  /-- It has the driver's lock, and has seen the replica alive since. -/
  | cleared (id : Option String) (driver : DriverId)
  | starting (id : Option String) (driver : DriverId)
  | started (id : Option String) (driver : DriverId)
  | running (id : Option String) (driver : DriverId)
  | led (id : Option String) (driver : DriverId)
  /-- The replica died first, and the driver is not started. -/
  | turnedAway (id : Option String) (driver : DriverId)
  /-- The storage failed while it was repaired, or while the identity was read. -/
  | doomed (read : Bool)
  | failed (read : Bool)

namespace Leading

def publish : Leading → Leading
  | created id driver => published id driver
  | l => l

def armNext : Leading → Leading
  | published id driver => timed id driver
  | timed id driver => armed id driver
  | running id driver => led id driver
  | l => l

def enter : Leading → Leading
  | armed id driver => entered id driver
  | l => l

def look (dead : Bool) : Leading → Leading
  | entered id driver => if dead then barred id driver else cleared id driver
  | l => l

def start : Leading → Leading
  | cleared id driver => starting id driver
  | l => l

def startEnd : Leading → Leading
  | starting id driver => started id driver
  | l => l

def exit : Leading → Leading
  | started id driver => running id driver
  | barred id driver => turnedAway id driver
  | l => l

def fail : Leading → Leading
  | doomed read => failed read
  | l => l

def after (l : Leading) : Act → Leading
  | .accessed (.install .leaderAwaitingRegistration) (.ok _) => due
  | .accessed (.install .dead) (.ok _) => l.fail
  | .accessed .readState s => l.look s.isDead
  | .accessed (.publishDriver _) _ => l.publish
  | .accessed (.lock .driver) _ => l.enter
  | .accessed (.unlock .driver) _ => l.exit
  | .called .repairStorage => repairing
  | .answered .repairStorage (some (.ok ())) => repaired
  | .answered .repairStorage (some (.error _)) => doomed false
  | .called .readFrameworkId => reading
  | .answered .readFrameworkId (some (.ok id)) => identified id
  | .answered .readFrameworkId (some (.error _)) => doomed true
  | .called (.createDriver id) => creating id
  | .answered (.createDriver id) (some driver) => created id driver
  | .called (.arm _) => l.armNext
  | .called (.startDriver _) => l.start
  | .answered (.startDriver _) _ => l.startEnd
  | _ => l

def Allows (l : Leading) : Act → Prop
  | .accessed (.install .leaderAwaitingRegistration) _ => l = unbegun
  | .accessed (.publishDriver driver) _ => ∃ id, l = created id driver
  | .accessed (.lock .driver) _ => ∃ id driver, l = armed id driver
  | .accessed (.unlock .driver) _ => ∃ id driver, l = barred id driver ∨ l = started id driver
  | .called .repairStorage => l = due
  | .answered .repairStorage x => l = repairing ∧ x.isSome = true
  | .called .readFrameworkId => l = repaired
  | .answered .readFrameworkId x => l = reading ∧ x.isSome = true
  | .called (.createDriver id) => l = identified id
  | .answered (.createDriver id) x => l = creating id ∧ x.isSome = true
  | .called (.arm .registration) => ∃ id driver, l = published id driver
  | .called (.arm .failover) => ∃ id driver, l = timed id driver
  | .called (.arm (.join driver)) => ∃ id, l = running id driver
  | .called (.startDriver driver) => ∃ id, l = cleared id driver
  | .answered (.startDriver driver) x => ∃ id, l = starting id driver ∧ x.isSome = true
  | _ => True

def isOver : Leading → Bool
  | unbegun | led _ _ | turnedAway _ _ | failed _ => true
  | _ => false

/-- Whether the task has the driver's lock to start the driver. -/
def isInside : Leading → Bool
  | entered _ _ | barred _ _ | cleared _ _ | starting _ _ | started _ _ => true
  | _ => false

end Leading

/-- How far a task has come with confirming registration. -/
inductive Confirming where
  | unbegun
  | due
  /-- It has seen the replica alive. -/
  | alive
  | marked
  | retracting
  | ignored
  | acknowledged
  | posted
  | holding (grant : Grant)
  | advertising (grant : Grant)
  | advertised (grant : Grant)
  /-- There was no grant, or advertising it failed, and the replica has to die. -/
  | doomed (refusal : Option (Grant × LeadershipError))
  | failed (refusal : Option (Grant × LeadershipError))

namespace Confirming

def look (dead : Bool) : Confirming → Confirming
  | due => if dead then ignored else alive
  | marked => if dead then retracting else acknowledged
  | c => c

def fail : Confirming → Confirming
  | doomed refusal => failed refusal
  | c => c

def after (c : Confirming) : Act → Confirming
  | .accessed (.install .registeredLeader) (.ok _) => due
  | .accessed (.install .dead) (.ok _) => c.fail
  | .accessed .readState s => c.look s.isDead
  | .accessed (.setAcknowledged value) _ => if value then marked else ignored
  | .accessed .readSlot held =>
    match held with
    | some grant => holding grant
    | none => doomed none
  | .called (.post _) => posted
  | .called (.advertise grant) => advertising grant
  | .answered (.advertise grant) (some (.ok ())) => advertised grant
  | .answered (.advertise grant) (some (.error e)) => doomed (some (grant, e))
  | _ => c

def Allows (c : Confirming) : Act → Prop
  | .accessed (.install .registeredLeader) _ => c = unbegun
  | .accessed (.setAcknowledged value) _ => c = if value then alive else retracting
  | .accessed .readSlot _ => c = posted
  | .called (.post event) => c = acknowledged ∧ event = .schedulerActive
  | .called (.advertise grant) => c = holding grant
  | .answered (.advertise grant) x => c = advertising grant ∧ x.isSome = true
  | _ => True

def isOver : Confirming → Bool
  | unbegun | ignored | advertised _ | failed _ => true
  | _ => false

end Confirming

/-! ## Death -/

/-- Whether an act may be that of a dying task. -/
def Act.isMortal : Act → Bool
  | accessed .claimTeardown _ | accessed .takeSlot _ | accessed .readDriver _ => true
  | accessed (.lock .driver) _ | accessed (.unlock .driver) _ => true
  | accessed (.setAcknowledged false) _ => true
  | called (.notice _) | called (.leave _) | called (.stopDriver _) | called .stopStorage => true
  | called .shutdown => true
  | answered (.notice _) _ | answered (.leave _) _ | answered (.stopDriver _) _ => true
  | answered .stopStorage _ => true
  | _ => false

/-- How far a teardown has come: what it took from the slot, which driver it found. -/
inductive Teardown where
  | begun
  | took (grant : Grant)
  | left (taken : Option Grant)
  /-- It has the driver's lock. -/
  | entered (taken : Option Grant)
  | found (taken : Option Grant) (driver : DriverId)
  | stopped (taken : Option Grant) (found : Option DriverId)
  | exited (taken : Option Grant) (found : Option DriverId)
  | halted (taken : Option Grant) (found : Option DriverId)
  | cleared (taken : Option Grant) (found : Option DriverId)

/-- How far a task has come with a death. -/
inductive Death where
  | none
  /-- It has installed `dead`. -/
  | dying
  | tearing (stage : Teardown)
  | complete (taken : Option Grant) (found : Option DriverId)

namespace Teardown

def ofTaken : Option Grant → Teardown
  | some grant => took grant
  | none => left none

def ofFound (taken : Option Grant) : Option DriverId → Teardown
  | some driver => found taken driver
  | none => stopped taken none

def after : Teardown → Act → Death
  | begun, .accessed .takeSlot taken => .tearing (ofTaken taken)
  | took grant, .called (.leave _) => .tearing (left (some grant))
  | left taken, .accessed (.lock .driver) _ => .tearing (entered taken)
  | entered taken, .accessed .readDriver seen => .tearing (ofFound taken seen)
  | found taken driver, .called (.stopDriver _) => .tearing (stopped taken (some driver))
  | stopped taken seen, .accessed (.unlock .driver) _ => .tearing (exited taken seen)
  | exited taken seen, .called .stopStorage => .tearing (halted taken seen)
  | halted taken seen, .accessed (.setAcknowledged _) _ => .tearing (cleared taken seen)
  | cleared taken seen, .called .shutdown => .complete taken seen
  | stage, _ => .tearing stage

def Allows : Teardown → Act → Prop
  | begun, .accessed .takeSlot _ => True
  | took grant, .called (.leave grant') => grant' = grant
  | left _, .answered (.leave _) _ => True
  | left _, .accessed (.lock .driver) _ => True
  | entered _, .accessed .readDriver _ => True
  | found _ driver, .called (.stopDriver driver') => driver' = driver
  | stopped _ _, .answered (.stopDriver _) _ => True
  | stopped _ _, .accessed (.unlock .driver) _ => True
  | exited _ _, .called .stopStorage => True
  | halted _ _, .answered .stopStorage _ => True
  | halted _ _, .accessed (.setAcknowledged value) _ => value = false
  | cleared _ _, .called .shutdown => True
  | _, _ => False

/-- Whether the teardown has the driver's lock. -/
def isInside : Teardown → Bool
  | entered _ | found _ _ | stopped _ _ => true
  | _ => false

/-- All that a teardown can do. -/
inductive Moves : Teardown → Act → Death → Prop where
  | take (taken : Option Grant) :
      Moves begun (.accessed .takeSlot taken) (.tearing (ofTaken taken))
  | leave (grant : Grant) :
      Moves (took grant) (.called (.leave grant)) (.tearing (left (some grant)))
  | enter (taken : Option Grant) :
      Moves (left taken) (.accessed (.lock .driver) ()) (.tearing (entered taken))
  | find (taken : Option Grant) (seen : Option DriverId) :
      Moves (entered taken) (.accessed .readDriver seen) (.tearing (ofFound taken seen))
  | stop (taken : Option Grant) (driver : DriverId) :
      Moves (found taken driver) (.called (.stopDriver driver))
        (.tearing (stopped taken (some driver)))
  | exit (taken : Option Grant) (seen : Option DriverId) :
      Moves (stopped taken seen) (.accessed (.unlock .driver) ()) (.tearing (exited taken seen))
  | halt (taken : Option Grant) (seen : Option DriverId) :
      Moves (exited taken seen) (.called .stopStorage) (.tearing (halted taken seen))
  | clear (taken : Option Grant) (seen : Option DriverId) :
      Moves (halted taken seen) (.accessed (.setAcknowledged false) ())
        (.tearing (cleared taken seen))
  | signal (taken : Option Grant) (seen : Option DriverId) :
      Moves (cleared taken seen) (.called .shutdown) (.complete taken seen)
  | hear {stage : Teardown} {c : Call} {x : Option c.Answer}
      (mortal : (Act.answered c x).isMortal = true) : Moves stage (.answered c x) (.tearing stage)

theorem moves_of_allows {stage : Teardown} {e : Act} (allowed : stage.Allows e) :
    Moves stage e (stage.after e) := by
  fun_cases stage.Allows e
  · exact .take _
  · cases allowed
    exact .leave _
  · exact .hear rfl
  · exact .enter _
  · exact .find _ _
  · cases allowed
    exact .stop _ _
  · exact .hear rfl
  · exact .exit _ _
  · exact .halt _ _
  · exact .hear rfl
  · cases allowed
    exact .clear _ _
  · exact .signal _ _
  · simp_all [Allows]

theorem Moves.isMortal {stage : Teardown} {e : Act} {d : Death} (h : stage.Moves e d) :
    e.isMortal = true := by
  cases h with
  | hear mortal => exact mortal
  | _ => rfl

end Teardown

namespace Death

/-- While a task dies it does nothing else. -/
def isActive : Death → Bool
  | dying | tearing _ => true
  | _ => false

def after : Death → Act → Death
  | none, .accessed (.install .dead) (.ok _) => dying
  | dying, .accessed .claimTeardown won => if won then tearing .begun else none
  | tearing stage, act => stage.after act
  | d, _ => d

def Allows : Death → Act → Prop
  | dying, .called (.notice _) => True
  | dying, .answered (.notice _) _ => True
  | dying, .accessed .claimTeardown _ => True
  | dying, _ => False
  | tearing stage, act => stage.Allows act
  | d, .accessed (.install .dead) _ => d = none
  | _, .accessed .claimTeardown _ => False
  | _, .accessed .takeSlot _ => False
  | _, .accessed .readDriver _ => False
  | _, .called (.stopDriver _) => False
  | _, .called .stopStorage => False
  | _, .called .shutdown => False
  | _, _ => True

def isOver : Death → Bool
  | none | complete _ _ => true
  | _ => false

/-- A task begins to die by installing `dead`. -/
theorem eq_none_of_isActive_after {d : Death} {e : Act} (inactive : d.isActive = false)
    (active : (d.after e).isActive = true) :
    d = none ∧ ∃ edge, e = .accessed (.install .dead) (.ok edge) := by
  cases d with
  | dying | tearing => cases inactive
  | complete => simp [after, isActive] at active
  | none =>
    refine ⟨rfl, Classical.byContradiction fun other => ?_⟩
    rw [after] at active
    · cases active
    all_goals simp_all

end Death

/-! ## Places -/

structure Place where
  hold : Hold := .none
  preparing : Preparing := .unbegun
  leading : Leading := .unbegun
  confirming : Confirming := .unbegun
  death : Death := .none

namespace Place

def after (r : Place) (act : Act) : Place :=
  if r.death.isActive then
    { r with death := r.death.after act }
  else
    { hold := r.hold.after act
      preparing := r.preparing.after act
      leading := r.leading.after act
      confirming := r.confirming.after act
      death := r.death.after act }

def Allows (r : Place) (act : Act) : Prop :=
  if r.death.isActive then
    r.death.Allows act
  else
    r.hold.Allows act ∧ r.preparing.Allows act ∧ r.leading.Allows act ∧
      r.confirming.Allows act ∧ r.death.Allows act

theorem after_of_active {r : Place} (h : r.death.isActive = true) (act : Act) :
    r.after act = { r with death := r.death.after act } := if_pos h

theorem after_of_inactive {r : Place} (h : r.death.isActive = false) (act : Act) :
    r.after act =
      { hold := r.hold.after act
        preparing := r.preparing.after act
        leading := r.leading.after act
        confirming := r.confirming.after act
        death := r.death.after act } := by
  simp [after, h]

theorem allows_of_active {r : Place} (h : r.death.isActive = true) {act : Act} :
    r.Allows act ↔ r.death.Allows act := by
  simp [Allows, h]

theorem allows_of_inactive {r : Place} (h : r.death.isActive = false) {act : Act} :
    r.Allows act ↔
      r.hold.Allows act ∧ r.preparing.Allows act ∧ r.leading.Allows act ∧
        r.confirming.Allows act ∧ r.death.Allows act := by
  simp [Allows, h]

/-- A task is over only where nothing is left to do. -/
structure AtRest (r : Place) : Prop where
  hold : r.hold.AtRest
  preparing : r.preparing.isOver = true
  leading : r.leading.isOver = true
  confirming : r.confirming.isOver = true
  death : r.death.isOver = true

end Place

/-- The places to which acts lead, each act allowed where it was done. -/
inductive Walk : List Act → Place → Prop where
  | start : Walk [] {}
  | step {acts : List Act} {r : Place} {e : Act} (walk : Walk acts r) (allowed : r.Allows e) :
      Walk (acts ++ [e]) (r.after e)

/-- A dying task has no pending grant. -/
theorem Walk.settled {acts : List Act} {r : Place} (h : Walk acts r)
    (active : r.death.isActive = true) : r.hold.isPending = false := by
  induction h with
  | start => cases active
  | @step acts r e _ allowed ih =>
    cases was : r.death.isActive with
    | true =>
      rw [Place.after_of_active was]
      exact ih was
    | false =>
      rw [Place.after_of_inactive was] at active ⊢
      obtain ⟨-, edge, rfl⟩ := Death.eq_none_of_isActive_after was active
      obtain settled | ⟨-, absurd⟩ := ((Place.allows_of_inactive was).mp allowed).1
      · exact (congrArg Hold.isPending (Hold.settle_eq settled true)).trans settled
      · cases absurd

end Tenure.Lifecycle
