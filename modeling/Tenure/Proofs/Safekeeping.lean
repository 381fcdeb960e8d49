import Tenure.Proofs.Lifetime
import Tenure.Proofs.Repair
import Tenure.Proofs.Spelling

/-!
# What becomes of a kept identity

Once an identity is in the file of a storage, only another one that is saved can take its place.
Of all that errands do, one step saves an identity, and the others leave the identity alone.
-/
namespace Tenure

/-- A repair does not touch the identity. -/
theorem Store.frameworkId_of_backfill {s s' : Store} {count : Nat}
    (h : s.backfill = .ok (count, s')) : s'.frameworkId = s.frameworkId := by
  rw [backfill_eq] at h
  cases listed : s.list with
  | error e => rw [listed] at h; cases h
  | ok records =>
    rw [listed] at h
    cases h
    rfl

/-! ## What a storage keeps -/

namespace Durable

variable {d d' : Durable} {id id' : String} {x : Option String}

/-- Whoever opens the file finds an identity. -/
def Holds (d : Durable) (id : String) : Prop :=
  ∃ s, d.file.openStore = .ok s ∧ s.frameworkId = .ok (some id)

/-- The storage was opened, and the file has what it works on. -/
structure Ready (d : Durable) : Prop where
  used : d.slot ≠ .closed
  file : d.file = .store d.contents

/-- What a storage that is ready gives for an identity. -/
structure Reads (d : Durable) (x : Option String) : Prop where
  ready : d.Ready
  frameworkId : d.contents.frameworkId = .ok x

/-- Every identity that was held is held on. -/
def Keeps (d d' : Durable) : Prop := ∀ id, d.Holds id → d'.Holds id

theorem Keeps.of_eq (h : d' = d) : d.Keeps d' := h ▸ fun _ => id

theorem Holds.unique (h : d.Holds id) (h' : d.Holds id') : id = id' := by
  obtain ⟨s, opens, kept⟩ := h
  obtain ⟨s', opens', kept'⟩ := h'
  cases opens.symm.trans opens'
  cases kept.symm.trans kept'
  rfl

theorem Reads.eq_some (h : d.Reads x) (held : d.Holds id) : x = some id := by
  obtain ⟨s, opens, kept⟩ := held
  rw [h.ready.file] at opens
  cases opens
  cases h.frameworkId.symm.trans kept
  rfl

theorem Ready.write (h : d.Ready) (s : Store) : (d.write s).Ready := ⟨h.used, rfl⟩

theorem Ready.usable (h : d.Ready) (unstopped : d.slot ≠ .stopped) : d.usable = .ok () := by
  rw [Durable.usable]
  cases slot : d.slot with
  | opened => rfl
  | closed => exact (h.used slot).elim
  | stopped => exact (unstopped slot).elim

theorem ofStore_eq_ok_iff {α : Type} {x : Except StoreError α} {a : α} :
    ofStore x = .ok a ↔ x = .ok a := by
  cases x <;> simp [ofStore]

/-- The identity that was saved last is found in the file. -/
theorem holds_write (d : Durable) (s : Store) (id : String) :
    (d.write (s.setFrameworkId id)).Holds id :=
  ⟨_, rfl, s.frameworkId_setFrameworkId id⟩

/-- What may become of a storage in which no identity is saved. -/
inductive Later (d : Durable) : Durable → Prop where
  | same : Later d d
  | opened {s : Store} (closed : d.slot = .closed) (opening : d.opening = .ok s) :
      Later d (write s { d with slot := .opened })
  | repaired {count : Nat} {s : Store} (ready : d.Ready)
      (backfill : d.contents.backfill = .ok (count, s)) : Later d (d.write s)
  | stopped : Later d { d with slot := .stopped }

namespace Later

theorem place (h : d.Later d') : d'.place = d.place := by cases h <;> rfl

theorem ready (h : d.Later d') (ready : d.Ready) : d'.Ready := by
  cases h with
  | same => exact ready
  | opened closed => exact (ready.used closed).elim
  | repaired => exact ready.write _
  | stopped => exact ⟨nofun, ready.file⟩

/-- A storage that is open is ready. -/
theorem ready_of_opened (h : d.Later d') (ready : d.slot = .opened → d.Ready)
    (opened : d'.slot = .opened) : d'.Ready := by
  cases h with
  | same => exact ready opened
  | opened => exact ⟨nofun, rfl⟩
  | repaired ready => exact ready.write _
  | stopped => cases opened

theorem reads (h : d.Later d') (reads : d.Reads x) : d'.Reads x := by
  refine ⟨h.ready reads.ready, ?_⟩
  cases h with
  | same | stopped => exact reads.frameworkId
  | opened closed => exact (reads.ready.used closed).elim
  | repaired _ backfill => exact (Store.frameworkId_of_backfill backfill).trans reads.frameworkId

theorem keeps (h : d.Later d') (disk : d.place ≠ .memory) : d.Keeps d' := by
  intro id held
  cases h with
  | same | stopped => exact held
  | opened closed opening =>
    obtain ⟨s, opens, kept⟩ := held
    rw [Durable.opening] at opening
    cases place : d.place with
    | memory => exact (disk place).elim
    | unreachable => rw [place] at opening; cases opening
    | disk =>
      rw [place, opens] at opening
      cases opening
      exact ⟨_, rfl, kept⟩
  | repaired ready backfill =>
    obtain ⟨s, opens, kept⟩ := held
    rw [ready.file] at opens
    cases opens
    exact ⟨_, rfl, (Store.frameworkId_of_backfill backfill).trans kept⟩

end Later

theorem prepare_later (d : Durable) :
    d.Later (storage.prepare.run d).2 ∧
      ((storage.prepare.run d).2.slot = .stopped → d.slot = .stopped) := by
  rw [prepare_run]
  cases slot : d.slot with
  | opened | stopped => exact ⟨.same, fun stopped => slot.symm.trans stopped⟩
  | closed =>
    cases opening : d.opening with
    | error e => exact ⟨.same, fun stopped => slot.symm.trans stopped⟩
    | ok s => exact ⟨.opened slot opening, nofun⟩

theorem repair_later (ready : d.Ready)
    (next : Except StorageError Nat → Except StorageError Unit) :
    d.Later ((storage.run (.backfill fun result => .done (next result))).run d).2 ∧
      ((storage.run (.backfill fun result => .done (next result))).run d).2.slot = d.slot := by
  rw [run_backfill, backfill_run]
  cases backfill : d.contents.backfill with
  | error e => exact ⟨.same, rfl⟩
  | ok repaired => exact ⟨.repaired ready backfill, rfl⟩

end Durable

/-! ## What errands do to the storage and the drivers -/

namespace Lifecycle

open Standalone (Driver Errand Fleet Scheduler Stamp)

/-- Whether an errand has no part in the identity of the framework. -/
def isApart : Errand → Bool
  | .repairing | .reading | .registering _ _ | .saving _ _ | .announcing _ _ => false
  | .done (.createDriver _) _ | .done .readFrameworkId (.ok _) => false
  | _ => true

/-- All that an errand can do in a step, as far as the identity goes. -/
inductive Deals (s : Scheduler) : Errand → Errand → Scheduler → Prop where
  | apart {e e' : Errand} {s' : Scheduler} (later : s.storage.Later s'.storage)
      (halts : s'.storage.slot = .stopped → s.storage.slot = .stopped ∨ e = .begun .stopStorage)
      (drivers : s'.fleet.drivers = s.fleet.drivers ∨
        ∃ i, s'.fleet.drivers = s.fleet.drivers.modify i Driver.stop)
      (silent : deed? s e = none) (apart : isApart e' = true) : Deals s e e' s'
  | admitted {e e' : Errand} (opened : s.storage.slot = .opened) (silent : deed? s e = none)
      (work : e' = .repairing ∨ e' = .reading) : Deals s e e' s
  | read : Deals s .reading
      (.done .readFrameworkId (Durable.ofStore s.storage.contents.frameworkId)) s
  | create (id : Option String) (driver : DriverId) :
      Deals s (.begun (.createDriver id)) (.done (.createDriver id) driver)
        { s with fleet := (s.fleet.create id).2 }
  | launch {driver : DriverId} {status : DriverStatus} {id : String} {fleet : Fleet}
      (started : s.fleet.start driver.index = some (status, some id, fleet)) :
      Deals s (.begun (.startDriver driver)) (.registering driver id) { s with fleet }
  | permit (driver : DriverId) (id : String) :
      Deals s (.registering driver id) (.saving driver id) s
  | refuse {driver : DriverId} {id : String} {e : StorageError}
      (refused : s.storage.usable = .error e) :
      Deals s (.registering driver id) (.announcing driver id) s
  | save (driver : DriverId) (id : String) :
      Deals s (.saving driver id) (.announcing driver id) (s.work (Durable.storage.save id)).2
  | announce (driver : DriverId) (id : String) :
      Deals s (.announcing driver id) (.done (.startDriver driver) .running)
        { s with bus := s.bus.post (.driverRegistered id) }

variable {s s' : Scheduler} {e e' : Errand}

/-- A step that touches neither the storage nor the drivers. -/
theorem Deals.elsewhere (storage : s'.storage = s.storage) (fleet : s'.fleet = s.fleet)
    (silent : deed? s e = none) (apart : isApart e' = true) : Deals s e e' s' :=
  .apart (storage ▸ .same) (fun stopped => .inl (storage ▸ stopped)) (.inl (fleet ▸ rfl)) silent
    apart

theorem deals_of_begun {c : Call} (h : (Errand.begun c).step? s = some (e', s')) :
    Deals s (.begun c) e' s' := by
  cases c with
  | prepareStorage =>
    cases h
    obtain ⟨later, halts⟩ := Durable.prepare_later s.storage
    exact .apart later (fun stopped => .inl (halts stopped)) (.inl rfl) rfl rfl
  | repairStorage | readFrameworkId =>
    simp only [Errand.step?] at h
    split at h
    · next usable =>
      cases h
      exact .admitted (Durable.slot_of_usable usable) rfl (by simp)
    · cases h
      exact .elsewhere rfl rfl rfl rfl
  | stopStorage =>
    cases h
    exact .apart .stopped (fun _ => .inr rfl) (.inl rfl) rfl rfl
  | createDriver id =>
    cases h
    exact .create id _
  | startDriver driver =>
    simp only [Errand.step?] at h
    split at h
    · next unknown =>
      cases h
      exact .elsewhere rfl rfl (by simp [deed?, unknown]) rfl
    · next again =>
      cases h
      exact .apart .same .inl (.inl (Fleet.start_of_none again)) (by simp [deed?, again]) rfl
    · next started =>
      cases h
      exact .launch started
  | joinDriver driver =>
    obtain ⟨status, -, eq⟩ := Option.map_eq_some_iff.mp h
    cases eq
    exact .elsewhere rfl rfl rfl rfl
  | stopDriver driver =>
    cases h
    exact .apart .same .inl (.inr ⟨_, rfl⟩) rfl rfl
  | arm timer => cases timer <;> cases h <;> exact .elsewhere rfl rfl rfl rfl
  | advertise | leave | post | shutdown | notice =>
    cases h
    exact .elsewhere rfl rfl rfl rfl

theorem deals_of_step? (ready : e = .repairing → s.storage.Ready)
    (h : e.step? s = some (e', s')) : Deals s e e' s' := by
  cases e with
  | begun c => exact deals_of_begun h
  | repairing =>
    cases h
    obtain ⟨later, slot⟩ := Durable.repair_later (ready rfl) fun result => result.map fun _ => ()
    exact .apart later (fun stopped => .inl (slot ▸ stopped)) (.inl rfl) rfl rfl
  | reading =>
    cases h
    exact .read
  | registering driver id =>
    simp only [Errand.step?] at h
    split at h
    · cases h
      exact .permit driver id
    · next refused =>
      cases h
      exact .refuse refused
  | saving driver id =>
    cases h
    exact .save driver id
  | announcing driver id =>
    cases h
    exact .announce driver id
  | advertising grant call | leaving grant call =>
    cases call with
    | done result =>
      cases h
      exact .elsewhere rfl rfl rfl rfl
    | advertise | publish | leave | withdraw =>
      obtain ⟨controls, eq⟩ := s.handle_eq grant _
      cases h
      exact .elsewhere (by rw [eq]) (by rw [eq]) rfl rfl
  | done c x => cases h

end Lifecycle
end Tenure
