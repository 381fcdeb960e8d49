import Tenure.Proofs.Account

/-!
# The works of a move, step by step

All that a task can do at each stage of making the storage ready, of taking the lead and of
confirming registration, as inversion laws for the acts that its place allows. What is told by a
stage stands beside it: the driver that was published, the calls that were made for it, the lock
that is held.
-/
namespace Tenure.Lifecycle

/-! ## Making the storage ready -/

/-- Whether an act is one of those by which a task makes the storage ready. -/
def Act.isPreparing : Act → Bool
  | accessed (.install .preparingStorage) (.ok _) => true
  | called .prepareStorage | answered .prepareStorage _ => true
  | _ => false

namespace Preparing

/-- All that a task can do while it makes the storage ready. -/
inductive Moves : Preparing → Act → Preparing → Prop where
  | begin (edge : Edge) : Moves unbegun (.accessed (.install .preparingStorage) (.ok edge)) due
  | ask : Moves due (.called .prepareStorage) asked
  | ready : Moves asked (.answered .prepareStorage (some (.ok ()))) ready
  | spoiled (e : StorageError) :
      Moves asked (.answered .prepareStorage (some (.error e))) (doomed e)
  | stand (x : Except IllegalMove Edge) :
      Moves ready (.accessed (.install .storagePrepared) x) stood
  | fail (e : StorageError) (edge : Edge) :
      Moves (doomed e) (.accessed (.install .dead) (.ok edge)) (failed e)
  | stay (p : Preparing) {e : Act} (other : e.isPreparing = false) : Moves p e p

theorem moves_stand (p : Preparing) (x : Except IllegalMove Edge) :
    Moves p (.accessed (.install .storagePrepared) x) p.stand := by
  cases p with
  | ready => exact .stand x
  | _ => exact .stay _ rfl

theorem moves_fail (p : Preparing) (edge : Edge) :
    Moves p (.accessed (.install .dead) (.ok edge)) p.fail := by
  cases p with
  | doomed e => exact .fail e edge
  | _ => exact .stay _ rfl

theorem moves_install {p : Preparing} {target : State} {x : Except IllegalMove Edge}
    (allowed : p.Allows (.accessed (.install target) x)) :
    Moves p (.accessed (.install target) x) (p.after (.accessed (.install target) x)) := by
  cases target with
  | preparingStorage =>
    obtain rfl : p = unbegun := allowed
    cases x with
    | ok edge => exact .begin edge
    | error => exact .stay _ rfl
  | storagePrepared => exact moves_stand p x
  | dead =>
    cases x with
    | ok edge => exact moves_fail p edge
    | error => exact .stay p rfl
  | _ => exact .stay p rfl

theorem moves_of_allows {p : Preparing} {e : Act} (allowed : p.Allows e) :
    Moves p e (p.after e) := by
  cases e with
  | accessed a x =>
    cases a with
    | install => exact moves_install allowed
    | _ => exact .stay p rfl
  | called c =>
    cases c with
    | prepareStorage =>
      obtain rfl : p = due := allowed
      exact .ask
    | _ => exact .stay p rfl
  | answered c x =>
    cases c with
    | prepareStorage =>
      obtain ⟨rfl, some⟩ := allowed
      rcases x with _ | e | _
      · cases some
      · exact .spoiled e
      · exact .ready
    | _ => exact .stay p rfl

theorem moves_of_turn {p p' : Preparing} {e : Act} (h : Turn Allows after unbegun p e p') :
    Moves p e p' :=
  h.moves (fun _ => moves_of_allows) fun still => by
    cases still with
    | stay _ other => exact .stay p other

end Preparing

/-! ## Taking the lead -/

/-- Whether an act is one of those by which a task takes the lead. -/
def Act.isLeading : Act → Bool
  | accessed (.install .leaderAwaitingRegistration) (.ok _) => true
  | accessed (.publishDriver _) _ => true
  | accessed (.lock .driver) _ | accessed (.unlock .driver) _ => true
  | called .repairStorage | answered .repairStorage _ => true
  | called .readFrameworkId | answered .readFrameworkId _ => true
  | called (.createDriver _) | answered (.createDriver _) _ => true
  | called (.startDriver _) | answered (.startDriver _) _ => true
  | called (.arm _) => true
  | _ => false

namespace Leading

/-- All that a task can do while it takes the lead. -/
inductive Moves : Leading → Act → Leading → Prop where
  | begin (edge : Edge) :
      Moves unbegun (.accessed (.install .leaderAwaitingRegistration) (.ok edge)) due
  | repair : Moves due (.called .repairStorage) repairing
  | repaired : Moves repairing (.answered .repairStorage (some (.ok ()))) repaired
  | spoiled (e : StorageError) :
      Moves repairing (.answered .repairStorage (some (.error e))) (doomed false)
  | read : Moves repaired (.called .readFrameworkId) reading
  | identified (id : Option String) :
      Moves reading (.answered .readFrameworkId (some (.ok id))) (identified id)
  | unread (e : StorageError) :
      Moves reading (.answered .readFrameworkId (some (.error e))) (doomed true)
  | create (id : Option String) :
      Moves (.identified id) (.called (.createDriver id)) (creating id)
  | created (id : Option String) (driver : DriverId) :
      Moves (creating id) (.answered (.createDriver id) (some driver)) (created id driver)
  | publish (id : Option String) (driver : DriverId) :
      Moves (.created id driver) (.accessed (.publishDriver driver) ()) (published id driver)
  | time (id : Option String) (driver : DriverId) :
      Moves (published id driver) (.called (.arm .registration)) (timed id driver)
  | arm (id : Option String) (driver : DriverId) :
      Moves (timed id driver) (.called (.arm .failover)) (armed id driver)
  | enter (id : Option String) (driver : DriverId) :
      Moves (armed id driver) (.accessed (.lock .driver) ()) (entered id driver)
  | bar (id : Option String) (driver : DriverId) :
      Moves (entered id driver) (.accessed .readState .dead) (barred id driver)
  | clear (id : Option String) (driver : DriverId) (s : State) (alive : s ≠ .dead) :
      Moves (entered id driver) (.accessed .readState s) (cleared id driver)
  | start (id : Option String) (driver : DriverId) :
      Moves (cleared id driver) (.called (.startDriver driver)) (starting id driver)
  | started (id : Option String) (driver : DriverId) (status : DriverStatus) :
      Moves (starting id driver) (.answered (.startDriver driver) (some status))
        (started id driver)
  | exit (id : Option String) (driver : DriverId) :
      Moves (.started id driver) (.accessed (.unlock .driver) ()) (running id driver)
  | turnAway (id : Option String) (driver : DriverId) :
      Moves (barred id driver) (.accessed (.unlock .driver) ()) (turnedAway id driver)
  | join (id : Option String) (driver : DriverId) :
      Moves (running id driver) (.called (.arm (.join driver))) (led id driver)
  | fail (read : Bool) (edge : Edge) :
      Moves (doomed read) (.accessed (.install .dead) (.ok edge)) (failed read)
  | stay (l : Leading) {e : Act} (other : e.isLeading = false) : Moves l e l

theorem moves_look (l : Leading) (s : State) :
    Moves l (.accessed .readState s) (l.look s.isDead) := by
  cases l with
  | entered id driver =>
    cases s with
    | dead => exact .bar id driver
    | _ => exact .clear id driver _ (by simp)
  | _ => exact .stay _ rfl

theorem moves_fail (l : Leading) (edge : Edge) :
    Moves l (.accessed (.install .dead) (.ok edge)) l.fail := by
  cases l with
  | doomed read => exact .fail read edge
  | _ => exact .stay _ rfl

theorem moves_arm {l : Leading} {timer : Timer} (allowed : l.Allows (.called (.arm timer))) :
    Moves l (.called (.arm timer)) l.armNext := by
  cases timer with
  | registration =>
    obtain ⟨id, driver, rfl⟩ := allowed
    exact .time id driver
  | failover =>
    obtain ⟨id, driver, rfl⟩ := allowed
    exact .arm id driver
  | join driver =>
    obtain ⟨id, rfl⟩ := allowed
    exact .join id driver

theorem moves_install {l : Leading} {target : State} {x : Except IllegalMove Edge}
    (allowed : l.Allows (.accessed (.install target) x)) :
    Moves l (.accessed (.install target) x) (l.after (.accessed (.install target) x)) := by
  cases target with
  | leaderAwaitingRegistration =>
    obtain rfl : l = unbegun := allowed
    cases x with
    | ok edge => exact .begin edge
    | error => exact .stay _ rfl
  | dead =>
    cases x with
    | ok edge => exact moves_fail l edge
    | error => exact .stay l rfl
  | _ => exact .stay l rfl

theorem moves_called {l : Leading} {c : Call} (allowed : l.Allows (.called c)) :
    Moves l (.called c) (l.after (.called c)) := by
  cases c with
  | repairStorage =>
    obtain rfl : l = due := allowed
    exact .repair
  | readFrameworkId =>
    obtain rfl : l = repaired := allowed
    exact .read
  | createDriver id =>
    obtain rfl : l = identified id := allowed
    exact .create id
  | arm timer => exact moves_arm allowed
  | startDriver driver =>
    obtain ⟨id, rfl⟩ := allowed
    exact .start id driver
  | _ => exact .stay l rfl

theorem moves_answered {l : Leading} {c : Call} {x : Option c.Answer}
    (allowed : l.Allows (.answered c x)) :
    Moves l (.answered c x) (l.after (.answered c x)) := by
  cases c with
  | repairStorage =>
    obtain ⟨rfl, some⟩ := allowed
    rcases x with _ | e | _
    · cases some
    · exact .spoiled e
    · exact .repaired
  | readFrameworkId =>
    obtain ⟨rfl, some⟩ := allowed
    rcases x with _ | e | id
    · cases some
    · exact .unread e
    · exact .identified id
  | createDriver id =>
    obtain ⟨rfl, some⟩ := allowed
    obtain ⟨driver, rfl⟩ := Option.isSome_iff_exists.mp some
    exact .created id driver
  | startDriver driver =>
    obtain ⟨id, rfl, some⟩ := allowed
    obtain ⟨status, rfl⟩ := Option.isSome_iff_exists.mp some
    exact .started id driver status
  | _ => exact .stay l rfl

theorem moves_of_allows {l : Leading} {e : Act} (allowed : l.Allows e) :
    Moves l e (l.after e) := by
  cases e with
  | accessed a x =>
    cases a with
    | readState => exact moves_look l x
    | install => exact moves_install allowed
    | publishDriver driver =>
      obtain ⟨id, rfl⟩ := allowed
      exact .publish id driver
    | lock k =>
      cases k with
      | grants => exact .stay l rfl
      | driver =>
        obtain ⟨id, driver, rfl⟩ := allowed
        exact .enter id driver
    | unlock k =>
      cases k with
      | grants => exact .stay l rfl
      | driver =>
        obtain ⟨id, driver, rfl | rfl⟩ := allowed
        · exact .turnAway id driver
        · exact .exit id driver
    | _ => exact .stay l rfl
  | called => exact moves_called allowed
  | answered => exact moves_answered allowed

theorem moves_of_turn {l l' : Leading} {e : Act} (h : Turn Allows after unbegun l e l') :
    Moves l e l' :=
  h.moves (fun _ => moves_of_allows) fun still => by
    cases still with
    | stay _ other => exact .stay l other

/-- The driver that was published. -/
def driver? : Leading → Option DriverId
  | published _ driver | timed _ driver | armed _ driver | entered _ driver => some driver
  | barred _ driver | cleared _ driver | starting _ driver | started _ driver => some driver
  | running _ driver | led _ driver | turnedAway _ driver => some driver
  | _ => none

/-- Whether the driver's lock is held and the replica was seen alive under it. -/
def isClear : Leading → Bool
  | cleared _ _ | starting _ _ | started _ _ => true
  | _ => false

/-- Whether the replica was seen alive under the driver's lock. -/
def wasClear : Leading → Bool
  | running _ _ | led _ _ => true
  | l => l.isClear

/-- The calls that start the driver. -/
def starts : Leading → List Call
  | starting _ driver | started _ driver | running _ driver | led _ driver =>
    [.startDriver driver]
  | _ => []

theorem isInside_of_isClear {l : Leading} (h : l.isClear = true) : l.isInside = true := by
  cases l <;> first | rfl | cases h

end Leading

/-! ## Confirming registration -/

/-- Whether an act is one of those by which a task confirms registration. -/
def Act.isConfirming : Act → Bool
  | accessed (.install .registeredLeader) (.ok _) => true
  | accessed (.setAcknowledged _) _ => true
  | accessed .readSlot _ => true
  | called (.post _) => true
  | called (.advertise _) | answered (.advertise _) _ => true
  | _ => false

namespace Confirming

/-- All that a task can do while it confirms registration. -/
inductive Moves : Confirming → Act → Confirming → Prop where
  | begin (edge : Edge) : Moves unbegun (.accessed (.install .registeredLeader) (.ok edge)) due
  | see (s : State) (live : s ≠ .dead) : Moves due (.accessed .readState s) alive
  | ignore : Moves due (.accessed .readState .dead) ignored
  | mark : Moves alive (.accessed (.setAcknowledged true) ()) marked
  | again (s : State) (live : s ≠ .dead) : Moves marked (.accessed .readState s) acknowledged
  | retract : Moves marked (.accessed .readState .dead) retracting
  | unmark : Moves retracting (.accessed (.setAcknowledged false) ()) ignored
  | post : Moves acknowledged (.called (.post .schedulerActive)) posted
  | hold (grant : Grant) : Moves posted (.accessed .readSlot (some grant)) (holding grant)
  | miss : Moves posted (.accessed .readSlot none) (doomed none)
  | advertise (grant : Grant) :
      Moves (holding grant) (.called (.advertise grant)) (advertising grant)
  | advertised (grant : Grant) :
      Moves (advertising grant) (.answered (.advertise grant) (some (.ok ()))) (advertised grant)
  | refuse (grant : Grant) (e : LeadershipError) :
      Moves (advertising grant) (.answered (.advertise grant) (some (.error e)))
        (doomed (some (grant, e)))
  | fail (refusal : Option (Grant × LeadershipError)) (edge : Edge) :
      Moves (doomed refusal) (.accessed (.install .dead) (.ok edge)) (failed refusal)
  | stay (c : Confirming) {e : Act} (other : e.isConfirming = false) : Moves c e c

theorem moves_look (c : Confirming) (s : State) :
    Moves c (.accessed .readState s) (c.look s.isDead) := by
  cases c with
  | due =>
    cases s with
    | dead => exact .ignore
    | _ => exact .see _ (by simp)
  | marked =>
    cases s with
    | dead => exact .retract
    | _ => exact .again _ (by simp)
  | _ => exact .stay _ rfl

theorem moves_fail (c : Confirming) (edge : Edge) :
    Moves c (.accessed (.install .dead) (.ok edge)) c.fail := by
  cases c with
  | doomed refusal => exact .fail refusal edge
  | _ => exact .stay _ rfl

theorem moves_install {c : Confirming} {target : State} {x : Except IllegalMove Edge}
    (allowed : c.Allows (.accessed (.install target) x)) :
    Moves c (.accessed (.install target) x) (c.after (.accessed (.install target) x)) := by
  cases target with
  | registeredLeader =>
    obtain rfl : c = unbegun := allowed
    cases x with
    | ok edge => exact .begin edge
    | error => exact .stay _ rfl
  | dead =>
    cases x with
    | ok edge => exact moves_fail c edge
    | error => exact .stay c rfl
  | _ => exact .stay c rfl

theorem moves_of_allows {c : Confirming} {e : Act} (allowed : c.Allows e) :
    Moves c e (c.after e) := by
  cases e with
  | accessed a x =>
    cases a with
    | readState => exact moves_look c x
    | install => exact moves_install allowed
    | setAcknowledged value =>
      cases value with
      | true =>
        obtain rfl : c = alive := allowed
        exact .mark
      | false =>
        obtain rfl : c = retracting := allowed
        exact .unmark
    | readSlot =>
      obtain rfl : c = posted := allowed
      cases x with
      | some grant => exact .hold grant
      | none => exact .miss
    | _ => exact .stay c rfl
  | called call =>
    cases call with
    | post event =>
      obtain ⟨rfl, rfl⟩ := allowed
      exact .post
    | advertise grant =>
      obtain rfl : c = holding grant := allowed
      exact .advertise grant
    | _ => exact .stay c rfl
  | answered call x =>
    cases call with
    | advertise grant =>
      obtain ⟨rfl, some⟩ := allowed
      rcases x with _ | e | _
      · cases some
      · exact .refuse grant e
      · exact .advertised grant
    | _ => exact .stay c rfl

theorem moves_of_turn {c c' : Confirming} {e : Act} (h : Turn Allows after unbegun c e c') :
    Moves c e c' :=
  h.moves (fun _ => moves_of_allows) fun still => by
    cases still with
    | stay _ other => exact .stay c other

end Confirming

/-! ## Variables after an act -/

namespace Act

theorem publishes?_of_isLeading {e : Act} (h : e.isLeading = false) : e.publishes? = none := by
  fun_cases publishes? e <;> first | rfl | cases h

theorem publishes?_of_isMortal {e : Act} (h : e.isMortal = true) : e.publishes? = none := by
  fun_cases publishes? e <;> first | rfl | cases h

theorem holdsDriver_of_isLeading {e : Act} (h : e.isLeading = false) (held : Bool) :
    e.holdsDriver held = held := by
  fun_cases holdsDriver held e <;> first | rfl | cases h

end Act

namespace Leading

variable {l l' : Leading} {e : Act}

theorem Moves.driver? (h : Moves l e l') : l'.driver? = e.publishes?.or l.driver? := by
  cases h with
  | stay _ other => rw [Act.publishes?_of_isLeading other, Option.none_or]
  | _ => rfl

end Leading

/-! ## The driver that is published -/

/-- The driver in the variables is the one that was created to lead. -/
theorem Account.Reached.driver {G : Account} {permits : Account → Act → Prop}
    (h : Reached permits G) : G.shared.driver = G.leading.driver? := by
  induction h with
  | start => rfl
  | step _ _ step ih =>
    rw [step.shared, Act.effect_driver, ih]
    rcases step.leading with turn | ⟨mortal, same⟩
    · exact (Leading.moves_of_turn turn).driver?.symm
    · rw [Act.publishes?_of_isMortal mortal, Option.none_or, same]

end Tenure.Lifecycle
