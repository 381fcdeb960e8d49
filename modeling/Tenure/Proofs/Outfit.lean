import Tenure.Proofs.Ascent
import Tenure.Proofs.Identity
import Tenure.Proofs.Lossless
import Tenure.Proofs.Readable
import Tenure.Proofs.Restoration

/-!
# What a scheduler has as it comes up

A scheduler comes up with a storage that it can open and read, and has a driver made, started and
registered by one task. How far that has come is told by the rung of the task and by its errand.
Nothing that it asks its collaborators for on the way up makes them fail it.
-/
namespace Tenure

/-! ## A storage that can be read -/

/-- Every task's value is that of a record, and there is no identity or one that can be read. -/
structure Store.Legible (s : Store) : Prop where
  records : s.Readable
  identity : ∃ id, s.frameworkId = .ok id

namespace Durable

variable {d : Durable}

structure Open (d : Durable) : Prop where
  opened : d.slot = .opened
  file : d.file = .store d.contents
  legible : d.contents.Legible

/-- A storage that is open, or can be opened, on a store that can be read. -/
def Opens (d : Durable) : Prop :=
  d.Open ∨ d.slot = .closed ∧ ∃ s, d.opening = .ok s ∧ s.Legible

theorem Open.usable (h : d.Open) : d.usable = .ok () := by rw [Durable.usable, h.opened]

theorem Open.write (h : d.Open) {s : Store} (legible : s.Legible) : (d.write s).Open :=
  ⟨h.opened, rfl, legible⟩

theorem Opens.prepare (h : d.Opens) :
    (storage.prepare.run d).1 = .ok () ∧ (storage.prepare.run d).2.Open := by
  rcases h with h | ⟨closed, s, opens, legible⟩
  · rw [prepare_run, h.opened]
    exact ⟨rfl, h⟩
  · rw [prepare_run, closed, opens]
    exact ⟨rfl, rfl, rfl, legible⟩

theorem Open.repair (h : d.Open) :
    ∃ s, (storage.run (.backfill fun result => .done (result.map fun _ => ()))).run d =
      (.ok (), d.write s) ∧ (d.write s).Open := by
  obtain ⟨count, backfill⟩ := Store.backfill_of_readable h.legible.records
  refine ⟨d.contents.backfilled, ?_, h.write ⟨h.legible.records.backfilled, h.legible.identity⟩⟩
  rw [run_backfill, backfill_run, backfill]
  rfl

/-- An identity that is saved can be read. -/
theorem Open.save (h : d.Open) (id : String) :
    (d.write (d.contents.setFrameworkId id)).Open ∧
      (d.contents.setFrameworkId id).frameworkId = .ok (some id) :=
  ⟨h.write ⟨h.legible.records, _, d.contents.frameworkId_setFrameworkId id⟩,
    d.contents.frameworkId_setFrameworkId id⟩

end Durable

namespace Standalone

/-- The handle of a grant says that the replica is advertised. -/
def Scheduler.Advertised (s : Scheduler) (grant : Lifecycle.Grant) : Prop :=
  ∃ control, s.controls.lookup grant = some control ∧ control.advertised = true

/-- The only driver there is can be started. -/
theorem Fleet.start_only {fleet : Fleet} {resumed : Option String}
    (only : fleet.drivers = [⟨resumed, .notStarted⟩]) :
    ∃ id fleet', fleet.start 0 = some (.running, some id, fleet') ∧
      fleet'.drivers = [⟨resumed, .running⟩] := by
  simp [Fleet.start, Driver.start, only]

/-- A call on the only handle there is. -/
theorem Scheduler.handle_only {s : Scheduler} {grant : Lifecycle.Grant} {control : Control}
    (only : s.controls = [(grant, control)]) (call : Control.Call) :
    (s.handle grant call).1 = (control.step call).1 ∧
      (s.handle grant call).2 = { s with controls := [(grant, (control.step call).2)] } := by
  simp [Scheduler.handle, Scheduler.withControl, only]

/-- Nobody but the only handle there is says so. -/
theorem Scheduler.advertised_only {s : Scheduler} {grant grant' : Lifecycle.Grant}
    {control : Control} (only : s.controls = [(grant, control)]) :
    s.Advertised grant' ↔ grant' = grant ∧ control.advertised = true := by
  rw [Advertised, only]
  by_cases same : grant' = grant
  · subst same
    simp
  · have differs : (grant' == grant) = false := by simpa using same
    simp [List.lookup_cons, differs, same]

/-- A call on a handle that comes to its end has the replica advertised. -/
def Control.Call.Sound (advertised : Prop) : Control.Call → Prop
  | .advertise | .publish => True
  | .done x => x = .ok () ∧ advertised
  | .leave | .withdraw => False

/-- An errand that is done has come to what was asked for. -/
def Errand.Sound (s : Scheduler) : Errand → Prop
  | .done (.advertise grant) x => x = .ok () ∧ s.Advertised grant
  | .done c x => c.Fair x
  | .advertising grant call => call.Sound (s.Advertised grant)
  | _ => True

theorem Errand.Sound.fair {s : Scheduler} {c : Lifecycle.Call} {x : c.Answer}
    (h : Sound s (.done c x)) : c.Fair x := by
  cases c with
  | advertise => exact h.1
  | _ => exact h

theorem Errand.Sound.mono {s s' : Scheduler} {e : Errand} (h : e.Sound s)
    (keeps : ∀ grant, s.Advertised grant → s'.Advertised grant) : e.Sound s' := by
  cases e with
  | done c x =>
    cases c with
    | advertise grant => exact ⟨h.1, keeps grant h.2⟩
    | _ => exact h
  | advertising grant call =>
    cases call with
    | done x => exact ⟨h.1, keeps grant h.2⟩
    | _ => exact h
  | _ => trivial

end Standalone

namespace Lifecycle

open Standalone (Control Driver Errand Fleet Scheduler)

/-! ## Drivers -/

/-- The identity under which a deed has a driver run. -/
def Deed.registered? : Deed → Option String
  | registered id => some id
  | _ => none

/-- The identities under which drivers came to run. -/
def Life.registered (w : Life) : List String := w.deeds.filterMap (·.1.registered?)

/-- How far a scheduler has come with its storage and its driver. -/
inductive Outfit where
  | asleep
  /-- The storage is open. -/
  | awake
  | made (driver : DriverId)
  /-- The driver runs, under an identity that is to be kept. -/
  | launched (driver : DriverId) (id : String)
  | kept (driver : DriverId) (id : String)
  /-- The identity of the driver was made known. -/
  | told (driver : DriverId)

/-- The first driver runs, and is the only one that ever did. -/
structure Life.Drives (w : Life) (driver : DriverId) (id : String) : Prop where
  first : driver.index = 0
  running : ∃ resumed, w.scheduler.fleet.drivers = [⟨resumed, .running⟩]
  registered : w.registered = [id]

/-- There is no driver. -/
structure Life.Driverless (w : Life) : Prop where
  none : w.scheduler.fleet.drivers = []
  registered : w.registered = []

def Outfit.Fits (w : Life) : Outfit → Prop
  | asleep => w.scheduler.storage.Opens ∧ w.Driverless
  | awake => w.scheduler.storage.Open ∧ w.Driverless
  | made driver =>
    w.scheduler.storage.Open ∧ driver.index = 0 ∧
      (∃ resumed, w.scheduler.fleet.drivers = [⟨resumed, .notStarted⟩]) ∧ w.registered = []
  | launched driver id => w.scheduler.storage.Open ∧ w.Drives driver id
  | kept driver id =>
    w.scheduler.storage.Open ∧ w.Drives driver id ∧
      w.scheduler.storage.contents.frameworkId = .ok (some id)
  | told driver =>
    ∃ id, w.scheduler.storage.Open ∧ w.Drives driver id ∧
      w.scheduler.storage.contents.frameworkId = .ok (some id) ∧ id ∈ w.announced

/-- What an errand tells of it. -/
def Outfit.of? : Errand → Option Outfit
  | .done .prepareStorage _ => some .awake
  | .done (.createDriver _) driver => some (.made driver)
  | .registering driver id | .saving driver id => some (.launched driver id)
  | .announcing driver id => some (.kept driver id)
  | .done (.startDriver driver) _ => some (.told driver)
  | _ => none

/-- What the rung of the task that leads tells of it. -/
def Rung.outfit : Rung → Outfit
  | ready | prepared | elected _ | offered _ | leading _ => .awake
  | manned _ driver | published _ driver => .made driver
  | driving _ driver => .told driver
  | _ => .asleep

/-- Where a task is in which an errand of its own is under way. -/
def Rung.outfitOn (r : Rung) (e : Option Errand) : Outfit := (e.bind Outfit.of?).getD r.outfit

theorem Rung.Next.outfit {r r' : Rung} (h : r.Next r') (leads : r.isAside = false) :
    r'.outfit = r.outfit := by
  cases h with
  | register => cases leads
  | _ => rfl

/-- With its answer a task knows what its errand has come to. -/
theorem Rung.outfit_hear {r : Rung} {c : Call} (asks : r.Asks c) (x : c.Answer) :
    (r.hear c x).outfit = r.outfitOn (some (.done c x)) := by
  cases c with
  | notice => cases r <;> rfl
  | prepareStorage =>
    cases r with
    | preparing => rfl
    | _ => cases asks
  | createDriver =>
    cases r with
    | leading => rfl
    | _ => cases asks
  | startDriver driver =>
    cases r with
    | published grant driver' =>
      obtain rfl : driver = driver' := asks
      rfl
    | _ => cases asks
  | _ => cases r <;> rfl

/-! ## The handle of a grant -/

/-- There is one handle once there is a grant, and nobody leaves with it. -/
def Handles (controls : List (Grant × Control)) : Option Grant → Prop
  | none => controls = []
  | some grant => ∃ control, controls = [(grant, control)] ∧ control.left = false

/-! ## A life that comes up -/

namespace Life

/-- The errand of the task that leads, if it is at one. -/
def ownErrand (w : Life) (main : Option (Nat × Operation)) : Option Errand :=
  main.bind fun m => w.errands m.1

/-- One task leads the replica up, and the storage, the driver and the handle fit how far it has
come. No collaborator fails. -/
structure Rises (w : Life) (main : Option (Nat × Operation)) (r : Rung) : Prop where
  inStep : w.InStep
  climbs : w.pool.Climbs main r
  outfit : (r.outfitOn (w.ownErrand main)).Fits w
  handles : Handles w.scheduler.controls r.grant?
  sound : ∀ i e, w.errands i = some e → e.Sound w.scheduler
  advertised : ∀ grant x, w.Heard (.advertise grant) x → w.scheduler.Advertised grant

variable {w w' : Life} {main : Option (Nat × Operation)} {r : Rung} {i : Nat} {e e' : Errand}

theorem Drives.congr {driver : DriverId} {id : String} (h : w.Drives driver id)
    (drivers : w'.scheduler.fleet.drivers = w.scheduler.fleet.drivers)
    (deeds : w'.deeds = w.deeds) :
    w'.Drives driver id where
  first := h.first
  running := drivers ▸ h.running
  registered := by
    rw [Life.registered, deeds]
    exact h.registered

theorem Driverless.congr (h : w.Driverless)
    (drivers : w'.scheduler.fleet.drivers = w.scheduler.fleet.drivers)
    (deeds : w'.deeds = w.deeds) :
    w'.Driverless where
  none := drivers ▸ h.none
  registered := by
    rw [Life.registered, deeds]
    exact h.registered

end Life

variable {w w' : Life} {main : Option (Nat × Operation)} {r : Rung} {i : Nat} {e e' : Errand}

/-- A task that is over has no errand. -/
theorem Life.InStep.errands_of_isOver (h : w.InStep) {o : Operation} {task : Task}
    (hi : w.pool.tasks[i]? = some (o, task)) (finished : task.isOver = true) :
    w.errands i = none := by
  refine Option.eq_none_iff_forall_ne_some.mpr fun e errand => ?_
  obtain ⟨o', task', hi', waits⟩ := h.waits i e errand
  cases hi.symm.trans hi'
  cases task with
  | running => cases waits
  | calling => cases finished

/-- Nothing but the storage, the drivers and what was done with them matters. -/
theorem Outfit.Fits.congr {o : Outfit} (h : o.Fits w)
    (storage : w'.scheduler.storage = w.scheduler.storage)
    (drivers : w'.scheduler.fleet.drivers = w.scheduler.fleet.drivers)
    (deeds : w'.deeds = w.deeds) :
    o.Fits w' := by
  cases o with
  | asleep | awake => exact ⟨storage ▸ h.1, h.2.congr drivers deeds⟩
  | made =>
    obtain ⟨ready, first, unstarted, unregistered⟩ := h
    refine ⟨storage ▸ ready, first, drivers ▸ unstarted, ?_⟩
    rw [Life.registered, deeds]
    exact unregistered
  | launched => exact ⟨storage ▸ h.1, h.2.congr drivers deeds⟩
  | kept => exact ⟨storage ▸ h.1, h.2.1.congr drivers deeds, storage ▸ h.2.2⟩
  | told =>
    obtain ⟨id, ready, drives, known, told⟩ := h
    refine ⟨id, storage ▸ ready, drives.congr drivers deeds, storage ▸ known, ?_⟩
    rw [Life.announced, deeds]
    exact told

/-- No driver is over. -/
theorem Outfit.Fits.join?_eq_none {o : Outfit} (h : o.Fits w) (driver : Nat) :
    w.scheduler.fleet.join? driver = none := by
  have runs : ∀ d ∈ w.scheduler.fleet.drivers, d.isOver = false := by
    cases o with
    | asleep | awake =>
      rw [h.2.none]
      nofun
    | made =>
      obtain ⟨-, -, ⟨resumed, only⟩, -⟩ := h
      simp [only, Driver.isOver]
    | launched =>
      obtain ⟨resumed, only⟩ := h.2.running
      simp [only, Driver.isOver]
    | kept =>
      obtain ⟨resumed, only⟩ := h.2.1.running
      simp [only, Driver.isOver]
    | told =>
      obtain ⟨id, -, ⟨-, ⟨resumed, only⟩, -⟩, -⟩ := h
      simp [only, Driver.isOver]
  rw [Fleet.join?]
  cases found : w.scheduler.fleet.drivers[driver]? with
  | none => rfl
  | some d => simp [runs d (List.mem_of_getElem? found)]

/-! ## What errands come to -/

/-- Whether a call is for the storage or the driver. -/
def Call.equips : Call → Bool
  | prepareStorage | repairStorage | readFrameworkId | createDriver _ | startDriver _ => true
  | _ => false

/-- Whether a call is for a replica that was just registered. -/
def Call.confirms : Call → Bool
  | post _ | advertise _ => true
  | _ => false

theorem Rung.eq_confirming_of_asks {c : Call} (confirms : c.confirms = true) (asks : r.Asks c) :
    ∃ grant, r = .confirming grant := by
  cases r with
  | confirming grant => exact ⟨grant, rfl⟩
  | _ => cases c <;> first | (cases confirms; done) | cases asks

theorem Rung.isAside_of_equips {c : Call} (equips : c.equips = true) (asks : r.Asks c) :
    r.isAside = false := by
  cases r with
  | aside | confirming => cases c <;> first | (cases equips; done) | cases asks
  | _ => rfl

/-- Every errand adds what it does about the identity. -/
theorem Life.Served.registered (h : w.Served i e e' w') :
    w'.registered =
      w.registered ++ ((deed? w.scheduler e).bind Deed.registered?).toList := by
  rw [Life.registered, h.deeds, List.filterMap_append]
  cases deed? w.scheduler e with
  | none => rfl
  | some deed => cases deed <;> rfl

namespace Life.Rises

/-- What an errand is about is what its task may ask for. -/
theorem asks (h : w.Rises main r) (errand : w.errands i = some e) :
    main.map Prod.fst = some i ∧ w.ownErrand main = some e ∧ r.Asks e.call ∨
      main.map Prod.fst ≠ some i ∧
        ∃ r' : Rung, r'.isAside = true ∧ r'.Fits w.pool.shared ∧ r'.Asks e.call := by
  obtain ⟨o, task, hi, waits⟩ := h.inStep.waits i e errand
  rcases h.climbs.asks hi waits with ⟨own, asks⟩ | other
  · refine .inl ⟨by rw [own]; rfl, ?_, asks⟩
    rw [ownErrand, own]
    exact errand
  · exact .inr other

/-- Only the task that leads asks for the storage and the driver, and its errand tells what there
is of them. -/
theorem leads (h : w.Rises main r) (errand : w.errands i = some e)
    (equips : e.call.equips = true) :
    main.map Prod.fst = some i ∧ r.Asks e.call ∧ (r.outfitOn (some e)).Fits w := by
  rcases h.asks errand with ⟨own, here, asks⟩ | ⟨-, r', aside, -, asks⟩
  · exact ⟨own, asks, here ▸ h.outfit⟩
  · cases aside.symm.trans (Rung.isAside_of_equips equips asks)

/-- A task that posts or advertises has had the replica registered. -/
theorem confirms (h : w.Rises main r) (errand : w.errands i = some e)
    (confirms : e.call.confirms = true) :
    ∃ grant, r.grant? = some grant ∧
      State.registeredLeader.rank ≤ w.pool.shared.state.rank ∧
        (Rung.confirming grant).Asks e.call := by
  have leads := h.climbs.leads
  rcases h.asks errand with ⟨-, -, asks⟩ | ⟨-, r', -, fits, asks⟩
  · obtain ⟨grant, rfl⟩ := Rung.eq_confirming_of_asks confirms asks
    cases leads
  · obtain ⟨grant, rfl⟩ := Rung.eq_confirming_of_asks confirms asks
    exact ⟨grant, h.climbs.fits.grant?_eq leads fits.1, fits.2, asks⟩

/-- Whatever an errand is about, some task may ask for it. -/
theorem asked (h : w.Rises main r) (errand : w.errands i = some e) :
    ∃ r' : Rung, r'.Asks e.call := by
  rcases h.asks errand with ⟨-, -, asks⟩ | ⟨-, r', -, -, asks⟩
  · exact ⟨r, asks⟩
  · exact ⟨r', asks⟩

/-- A step of an errand, as far as it is not plain what it keeps. -/
theorem served (h : w.Rises main r) (served : w.Served i e e' w')
    (outfit : (r.outfitOn (w'.ownErrand main)).Fits w')
    (handles : Handles w'.scheduler.controls r.grant?)
    (keeps : ∀ grant, w.scheduler.Advertised grant → w'.scheduler.Advertised grant)
    (sound : e'.Sound w'.scheduler) : w'.Rises main r where
  inStep := h.inStep.serve served
  climbs := served.pool ▸ h.climbs
  outfit := outfit
  handles := handles
  sound j e'' errand := by
    by_cases ji : j = i
    · subst ji
      obtain rfl : e' = e'' := Option.some.inj (served.own.symm.trans errand)
      exact sound
    · rw [served.others j ji] at errand
      exact (h.sound j e'' errand).mono keeps
  advertised grant x heard := by
    rcases served.heard_iff.mp heard with before | rfl
    · exact keeps grant (h.advertised grant x before)
    · exact sound.2

/-- The errand of the task that leads, which touches no handle. -/
theorem equip (h : w.Rises main r) (served : w.Served i e e' w')
    (own : main.map Prod.fst = some i) (outfit : (r.outfitOn (some e')).Fits w')
    (controls : w'.scheduler.controls = w.scheduler.controls) (sound : e'.Sound w'.scheduler) :
    w'.Rises main r := by
  refine h.served served ?_ (controls ▸ h.handles) (fun grant advertised => ?_) sound
  · obtain ⟨⟨j, o⟩, leads, rfl⟩ := Option.map_eq_some_iff.mp own
    rw [ownErrand, leads, Option.bind_some, served.own]
    exact outfit
  · rw [Scheduler.Advertised, controls]
    exact advertised

/-- An errand that has nothing to do with the storage or the drivers. -/
theorem apart (h : w.Rises main r) (served : w.Served i e e' w')
    (same : Outfit.of? e' = Outfit.of? e) (silent : deed? w.scheduler e = none)
    (storage : w'.scheduler.storage = w.scheduler.storage)
    (fleet : w'.scheduler.fleet = w.scheduler.fleet)
    (handles : Handles w'.scheduler.controls r.grant?)
    (keeps : ∀ grant, w.scheduler.Advertised grant → w'.scheduler.Advertised grant)
    (sound : e'.Sound w'.scheduler) : w'.Rises main r := by
  have deeds : w'.deeds = w.deeds := by rw [served.deeds, silent, Option.map_none,
    Option.toList_none, List.append_nil]
  refine h.served served ?_ handles keeps sound
  have outfit : r.outfitOn (w'.ownErrand main) = r.outfitOn (w.ownErrand main) := by
    cases main with
    | none => rfl
    | some m =>
      simp only [ownErrand, Option.bind_some]
      by_cases ji : m.1 = i
      · rw [ji, served.own, served.errand, Rung.outfitOn, Rung.outfitOn, Option.bind_some,
          Option.bind_some, same]
      · rw [served.others _ ji]
  rw [outfit]
  exact h.outfit.congr storage (by rw [fleet]) deeds

/-- An errand that touches nothing that matters. -/
theorem rest (h : w.Rises main r) (served : w.Served i e e' w')
    (same : Outfit.of? e' = Outfit.of? e) (silent : deed? w.scheduler e = none) {bus : Bus Event}
    {agenda : Agenda Timer} {joins : List DriverId}
    (next : { w.scheduler with bus, agenda, joins } = w'.scheduler)
    (sound : e'.Sound w'.scheduler) : w'.Rises main r := by
  refine h.apart served same silent (by rw [← next]) (by rw [← next]) ?_ (fun grant => ?_) sound
  · rw [← next]
    exact h.handles
  · rw [← next]
    exact id

/-! ## The task that leads -/

section Own

variable {grant : Grant} {driver : DriverId} {id : String}

theorem prepares (h : w.Rises main .preparing) (own : main.map Prod.fst = some i)
    (served : w.Served i (.begun .prepareStorage) e' w') (outfit : Outfit.asleep.Fits w) :
    w'.Rises main .preparing := by
  obtain ⟨rfl, next⟩ := Prod.mk.inj (Option.some.inj served.step)
  obtain ⟨ok, ready⟩ := outfit.1.prepare
  refine h.equip served own ⟨?_, ?_⟩ (by rw [← next]) ok
  · rw [← next]
    exact ready
  · exact outfit.2.congr (by rw [← next]) (by simp [served.deeds, deed?])

/-- The storage is open, so it admits what the one who leads asks for. -/
theorem admits (h : w.Rises main r) (served : w.Served i e e' w')
    (ready : w.scheduler.storage.Open)
    (asks : e = .begun .repairStorage ∨ e = .begun .readFrameworkId) : w'.Rises main r := by
  have step := served.step
  rcases asks with rfl | rfl
  all_goals
    simp only [Errand.step?, ready.usable] at step
    obtain ⟨rfl, next⟩ := Prod.mk.inj (Option.some.inj step)
    exact h.rest served rfl rfl next trivial

theorem repairs (h : w.Rises main (.leading grant)) (own : main.map Prod.fst = some i)
    (served : w.Served i .repairing e' w') (outfit : Outfit.awake.Fits w) :
    w'.Rises main (.leading grant) := by
  obtain ⟨rfl, next⟩ := Prod.mk.inj (Option.some.inj served.step)
  obtain ⟨s, run, ready⟩ := outfit.1.repair
  simp only [Scheduler.work, run] at next
  refine h.equip served own ⟨?_, ?_⟩ (by rw [← next]) (by simp only [Scheduler.work, run]; rfl)
  · rw [← next]
    exact ready
  · exact outfit.2.congr (by rw [← next]) (by simp [served.deeds, deed?])

theorem reads (h : w.Rises main r) (served : w.Served i .reading e' w')
    (ready : w.scheduler.storage.Open) : w'.Rises main r := by
  obtain ⟨rfl, next⟩ := Prod.mk.inj (Option.some.inj served.step)
  obtain ⟨id, known⟩ := ready.legible.identity
  refine h.rest served rfl rfl (show w.scheduler = _ from next) ?_
  exact ⟨id, Durable.ofStore_eq_ok_iff.mpr known⟩

theorem creates (h : w.Rises main (.leading grant)) (own : main.map Prod.fst = some i)
    {resumed : Option String} (served : w.Served i (.begun (.createDriver resumed)) e' w')
    (outfit : Outfit.awake.Fits w) : w'.Rises main (.leading grant) := by
  obtain ⟨rfl, next⟩ := Prod.mk.inj (Option.some.inj served.step)
  obtain ⟨ready, none, unregistered⟩ := outfit
  refine h.equip served own ⟨?_, ?_, ⟨resumed, ?_⟩, ?_⟩ (by rw [← next]) trivial
  · rw [← next]
    exact ready
  · exact congrArg List.length none
  · rw [← next]
    simp [none]
  · rw [served.registered, unregistered]
    rfl

theorem starts (h : w.Rises main (.published grant driver)) (own : main.map Prod.fst = some i)
    (served : w.Served i (.begun (.startDriver driver)) e' w')
    (outfit : (Outfit.made driver).Fits w) :
    w'.Rises main (.published grant driver) := by
  obtain ⟨ready, first, ⟨resumed, only⟩, unregistered⟩ := outfit
  obtain ⟨id, fleet, started, running⟩ := Fleet.start_only only
  rw [← first] at started
  have step := served.step
  simp only [Errand.step?, started] at step
  obtain ⟨rfl, next⟩ := Prod.mk.inj (Option.some.inj step)
  refine h.equip served own ⟨?_, first, ⟨resumed, ?_⟩, ?_⟩ (by rw [← next]) trivial
  · rw [← next]
    exact ready
  · rw [← next]
    exact running
  · rw [served.registered, unregistered]
    simp [deed?, started, Deed.registered?]

theorem permits (h : w.Rises main r)
    (served : w.Served i (.registering driver id) e' w')
    (outfit : (Outfit.launched driver id).Fits w) : w'.Rises main r := by
  have step := served.step
  simp only [Errand.step?, outfit.1.usable] at step
  obtain ⟨rfl, next⟩ := Prod.mk.inj (Option.some.inj step)
  refine h.rest served rfl ?_ next trivial
  simp [deed?, outfit.1.usable]

theorem saves (h : w.Rises main r) (own : main.map Prod.fst = some i)
    (served : w.Served i (.saving driver id) e' w') (outfit : (Outfit.launched driver id).Fits w) :
    w'.Rises main r := by
  obtain ⟨rfl, next⟩ := Prod.mk.inj (Option.some.inj served.step)
  obtain ⟨ready, drives⟩ := outfit
  obtain ⟨ready, known⟩ := ready.save id
  have storage : w'.scheduler.storage =
      w.scheduler.storage.write (w.scheduler.storage.contents.setFrameworkId id) := by
    rw [← next]
    rfl
  refine h.equip served own ⟨storage ▸ ready, ⟨drives.first, ?_, ?_⟩, ?_⟩
    (by rw [← next]; rfl) trivial
  · rw [← next]
    exact drives.running
  · rw [served.registered, drives.registered]
    rfl
  · rw [storage]
    exact known

theorem announces (h : w.Rises main r) (own : main.map Prod.fst = some i)
    (served : w.Served i (.announcing driver id) e' w') (outfit : (Outfit.kept driver id).Fits w) :
    w'.Rises main r := by
  obtain ⟨rfl, next⟩ := Prod.mk.inj (Option.some.inj served.step)
  obtain ⟨ready, drives, known⟩ := outfit
  refine h.equip served own ⟨id, ?_, ⟨drives.first, ?_, ?_⟩, ?_, ?_⟩ (by rw [← next]) trivial
  · rw [← next]
    exact ready
  · rw [← next]
    exact drives.running
  · rw [served.registered, drives.registered]
    rfl
  · rw [← next]
    exact known
  · exact mem_announced.mpr ⟨w'.scheduler.storage, by simp [served.deeds, deed?]⟩

end Own

/-! ## Tasks that do not lead -/

section Others

variable {grant : Grant} {call : Control.Call}

theorem advertises (h : w.Rises main r)
    (served : w.Served i (.advertising grant call) e' w') : w'.Rises main r := by
  obtain ⟨grant', leads, -, rfl⟩ := h.confirms served.errand rfl
  have handles := h.handles
  rw [leads] at handles
  obtain ⟨control, only, stays⟩ := handles
  have sound : call.Sound (w.scheduler.Advertised grant) := h.sound i _ served.errand
  have step := served.step
  cases call with
  | leave | withdraw => exact sound.elim
  | done x =>
    obtain ⟨rfl, next⟩ := Prod.mk.inj (Option.some.inj step)
    exact h.rest served rfl rfl next (next ▸ sound)
  | advertise =>
    obtain ⟨call', handled⟩ := Scheduler.handle_only only .advertise
    have publishes : control.step .advertise = (.publish, control) := by simp [Control.step, stays]
    rw [publishes] at call' handled
    simp only [Errand.step?, call', handled, ← only] at step
    obtain ⟨rfl, next⟩ := Prod.mk.inj (Option.some.inj step)
    exact h.rest served rfl rfl next trivial
  | publish =>
    obtain ⟨call', handled⟩ := Scheduler.handle_only only .publish
    simp only [Errand.step?, call', handled] at step
    obtain ⟨rfl, next⟩ := Prod.mk.inj (Option.some.inj step)
    have advertised : w'.scheduler.Advertised grant := by
      rw [← next]
      exact ⟨_, List.lookup_cons_self, rfl⟩
    refine h.apart served rfl rfl (by rw [← next]) (by rw [← next]) ?_ (fun grant' before => ?_)
      ⟨rfl, advertised⟩
    · rw [leads, ← next]
      exact ⟨_, rfl, stays⟩
    · rwa [((Scheduler.advertised_only only).mp before).1]

end Others

/-! ## Every errand -/

theorem serve_begun (h : w.Rises main r) {c : Call} (served : w.Served i (.begun c) e' w') :
    w'.Rises main r := by
  cases c with
  | notice | post | advertise =>
    obtain ⟨rfl, next⟩ := Prod.mk.inj (Option.some.inj served.step)
    exact h.rest served rfl rfl next trivial
  | arm timer =>
    have step := served.step
    cases timer
    all_goals
      obtain ⟨rfl, next⟩ := Prod.mk.inj (Option.some.inj step)
      exact h.rest served rfl rfl next trivial
  | prepareStorage =>
    obtain ⟨own, asks, outfit⟩ := h.leads served.errand rfl
    cases r with
    | preparing => exact h.prepares own served outfit
    | _ => cases asks
  | repairStorage | readFrameworkId =>
    obtain ⟨own, asks, outfit⟩ := h.leads served.errand rfl
    cases r with
    | leading => exact h.admits served outfit.1 (by simp)
    | _ => cases asks
  | createDriver resumed =>
    obtain ⟨own, asks, outfit⟩ := h.leads served.errand rfl
    cases r with
    | leading => exact h.creates own served outfit
    | _ => cases asks
  | startDriver driver =>
    obtain ⟨own, asks, outfit⟩ := h.leads served.errand rfl
    cases r with
    | published grant driver' =>
      obtain rfl : driver = driver' := asks
      exact h.starts own served outfit
    | _ => cases asks
  | stopStorage | joinDriver | stopDriver | leave | shutdown =>
    obtain ⟨r', asks⟩ := h.asked served.errand
    cases r' <;> cases asks

/-- Whatever a collaborator does, the life comes up. -/
theorem serve (h : w.Rises main r) (served : w.Served i e e' w') : w'.Rises main r := by
  cases e with
  | begun c => exact h.serve_begun served
  | done c x => cases served.step
  | repairing =>
    obtain ⟨own, asks, outfit⟩ := h.leads served.errand rfl
    cases r with
    | leading => exact h.repairs own served outfit
    | _ => cases asks
  | reading =>
    obtain ⟨own, asks, outfit⟩ := h.leads served.errand rfl
    cases r with
    | leading => exact h.reads served outfit.1
    | _ => cases asks
  | registering driver id =>
    obtain ⟨own, asks, outfit⟩ := h.leads served.errand rfl
    exact h.permits served outfit
  | saving driver id =>
    obtain ⟨own, asks, outfit⟩ := h.leads served.errand rfl
    exact h.saves own served outfit
  | announcing driver id =>
    obtain ⟨own, asks, outfit⟩ := h.leads served.errand rfl
    exact h.announces own served outfit
  | advertising grant call => exact h.advertises served
  | leaving grant call =>
    obtain ⟨r', asks⟩ := h.asked served.errand
    cases r' <;> cases asks

/-! ## Steps of the replica -/

theorem start {scheduler : Scheduler} (opens : scheduler.storage.Opens)
    (drivers : scheduler.fleet.drivers = []) (controls : scheduler.controls = []) :
    Rises { scheduler } none .idle where
  inStep := .start
  climbs := .start
  outfit := ⟨opens, drivers, rfl⟩
  handles := controls
  sound i e errand := by cases errand
  advertised := by
    rintro grant x ⟨i, errand | answered⟩
    · cases errand
    · cases answered

/-- The bus is nothing that a life needs to come up. -/
theorem onBus (h : w.Rises main r) (bus : Bus Event) :
    Rises { w with scheduler := { w.scheduler with bus } } main r where
  inStep := ⟨h.inStep.run, h.inStep.waits⟩
  climbs := h.climbs
  outfit := h.outfit.congr rfl rfl rfl
  handles := h.handles
  sound i e errand := (h.sound i e errand).mono fun _ => id
  advertised := h.advertised

theorem advance (h : w.Rises main r) {p : Pool} (step : w.pool.step? (.advance i) = some p) :
    ∃ r', r.Next r' ∧ (main.map Prod.fst ≠ some i → r' = r) ∧
      ((w.put p).setErrand i (errandOf p i)).Rises main r' := by
  obtain ⟨inStep, moved⟩ := h.inStep.advance step
  obtain ⟨r', next, own, climbs⟩ := h.climbs.advance step
  have idle : w.errands i = none := by
    simp only [Pool.step?, Option.bind_eq_some_iff, Option.map_eq_some_iff, Prod.exists] at step
    obtain ⟨o, task, hi, _, _, _, move, -⟩ := step
    exact h.inStep.errands_of_advance? hi (by rw [move]; rfl)
  -- A task that goes on by itself was at no errand, and the one that it may begin tells nothing yet.
  have outfit : r'.outfitOn (((w.put p).setErrand i (errandOf p i)).ownErrand main) =
      r.outfitOn (w.ownErrand main) := by
    have same := next.outfit h.climbs.leads
    cases main with
    | none => exact same
    | some m =>
      simp only [ownErrand, Option.bind_some]
      by_cases own : m.1 = i
      · rw [own, errands_setErrand_self, idle, errandOf]
        cases p.tasks[i]?.bind fun entry => entry.2.open? <;> exact same
      · rw [errands_setErrand_of_ne _ _ own, Rung.outfitOn, Rung.outfitOn, same]
        rfl
  refine ⟨r', next, own, inStep, climbs, ?_, ?_, fun j e errand => ?_, fun grant x heard => ?_⟩
  · rw [outfit]
    exact h.outfit.congr rfl rfl rfl
  · rw [next.grant?]
    exact h.handles
  · rcases moved.errands j e errand with same | ⟨c, rfl⟩
    · exact (h.sound j e same).mono fun _ => id
    · trivial
  · exact h.advertised grant x ((moved.heard _ _).mp heard)

theorem answer (h : w.Rises main r) {c : Call} {x : c.Answer}
    (errand : w.errands i = some (.done c x)) {p : Pool}
    (step : w.pool.step? (.answer i c (some x)) = some p) :
    ((w.put p).setErrand i none).Rises main
      (if main.map Prod.fst = some i then r.hear c x else r) := by
  obtain ⟨inStep, moved⟩ := h.inStep.answer errand step
  have outfit : (if main.map Prod.fst = some i then r.hear c x else r).outfitOn
      (((w.put p).setErrand i none).ownErrand main) = r.outfitOn (w.ownErrand main) := by
    rcases h.asks errand with ⟨own, here, asks⟩ | ⟨other, -⟩
    · obtain ⟨m, rfl, rfl⟩ := Option.map_eq_some_iff.mp own
      have heard : (r.hear c x).outfit = r.outfitOn (some (.done c x)) := Rung.outfit_hear asks x
      rw [if_pos own, here, ← heard, ownErrand, Option.bind_some, errands_setErrand_self]
      rfl
    · rw [if_neg other]
      cases main with
      | none => rfl
      | some m =>
        have ne : m.1 ≠ i := fun eq => other (congrArg some eq)
        simp only [ownErrand, Option.bind_some, errands_setErrand_of_ne _ _ ne]
        rfl
  refine ⟨inStep, h.climbs.answer step (h.sound i _ errand).fair, ?_, ?_, fun j e errand => ?_,
    fun grant x heard => ?_⟩
  · rw [outfit]
    exact h.outfit.congr rfl rfl rfl
  · have same : (if main.map Prod.fst = some i then r.hear c x else r).grant? = r.grant? := by
      split
      · exact r.grant?_hear x
      · rfl
    rw [same]
    exact h.handles
  · rcases moved.errands j e errand with same | ⟨c, rfl⟩
    · exact (h.sound j e same).mono fun _ => id
    · trivial
  · exact h.advertised grant x ((moved.heard _ _).mp heard)

/-- An operation that does not lead is begun. -/
theorem begin_aside (h : w.Rises main r) {operation : Operation} {p : Pool}
    (step : w.pool.step? (.begin operation) = some p)
    (climbs : Climbs operation.Tops .aside operation.program) : (w.put p).Rises main r := by
  obtain ⟨inStep, moved⟩ := h.inStep.begin operation rfl rfl rfl step
  exact
    { inStep
      climbs := h.climbs.begin_aside step climbs
      outfit := h.outfit.congr rfl rfl rfl
      handles := h.handles
      sound := fun i e errand => (h.sound i e errand).mono fun _ => id
      advertised := fun grant x heard => h.advertised grant x ((moved.heard _ _).mp heard) }

/-- An operation that leads is begun, once the one before it is over. -/
theorem begin_own (h : w.Rises main r) {operation : Operation} {scheduler : Scheduler}
    (storage : scheduler.storage = w.scheduler.storage)
    (fleet : scheduler.fleet = w.scheduler.fleet) (bus : scheduler.bus = w.scheduler.bus) {p : Pool}
    (step : w.pool.step? (.begin operation) = some p)
    (finished : ∀ i o task, main = some (i, o) → w.pool.tasks[i]? = some (o, task) →
      task.isOver = true)
    {r' : Rung} (fits : r'.Fits w.pool.shared) (leads : r'.isAside = false)
    (climbs : Climbs operation.Tops r' operation.program) (outfit : r'.outfit = r.outfit)
    (handles : Handles scheduler.controls r'.grant?)
    (keeps : ∀ grant, w.scheduler.Advertised grant → scheduler.Advertised grant) :
    Rises (({ w with scheduler } : Life).put p) (some (w.pool.tasks.length, operation)) r' := by
  obtain ⟨inStep, moved⟩ := h.inStep.begin operation storage fleet bus step
  have idle : w.ownErrand main = none := by
    refine Option.eq_none_iff_forall_ne_some.mpr fun e errand => ?_
    obtain ⟨⟨i, o⟩, own, errand⟩ := Option.bind_eq_some_iff.mp errand
    obtain ⟨task, hi, -⟩ := h.climbs.own i o own
    rw [h.inStep.errands_of_isOver hi (finished i o task own hi)] at errand
    cases errand
  have fresh : w.errands w.pool.tasks.length = none := by
    refine Option.eq_none_iff_forall_ne_some.mpr fun e errand => ?_
    obtain ⟨o, task, hi, -⟩ := h.inStep.waits _ e errand
    exact absurd (List.getElem?_eq_some_iff.mp hi).1 (Nat.lt_irrefl _)
  have same : r'.outfitOn (some (w.pool.tasks.length, operation) |>.bind fun m => w.errands m.1) =
      r.outfitOn (w.ownErrand main) := by
    rw [Option.bind_some, fresh, idle]
    exact outfit
  have fitted := h.outfit
  rw [← same] at fitted
  exact
    { inStep
      climbs := h.climbs.begin_own step fits leads climbs finished
      outfit := fitted.congr storage (congrArg Fleet.drivers fleet) rfl
      handles
      sound := fun i e errand => (h.sound i e errand).mono keeps
      advertised := fun grant x heard =>
        keeps grant (h.advertised grant x ((moved.heard _ _).mp heard)) }

end Life.Rises
end Lifecycle
end Tenure
