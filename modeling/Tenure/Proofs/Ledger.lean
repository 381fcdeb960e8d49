import Mathlib.Data.Finmap
import Mathlib.Data.Finset.Sort
import Mathlib.Data.String.Basic
import Tenure.Proofs.Collation
import Tenure.Proofs.Lossless
import Tenure.Proofs.Repair
import Tenure.Store.File

/-!
# A store is a map

A ledger holds what the users of a store see of it: the identity of the framework and a finite map
of task records. A store that is asked anything any number of times, through any of the handles on
it, and closed and opened again in between, never fails and answers as its ledger does.

The store keeps bytes in a table; the ledger has no bytes and no order. `Holds` relates the two.
-/
namespace Tenure

/-! ## Ledgers -/

/-- A record with all that it lacked: its environment was `devel`, and its job has its own role,
environment and name. -/
def Record.completed (r : Record) : Record :=
  match r.environment, r.jobKey with
  | some _, some _ => r
  | some environment, none => { r with jobKey := some ⟨r.role, environment, r.jobName⟩ }
  | none, some _ => { r with environment := some "devel" }
  | none, none =>
    { r with environment := some "devel", jobKey := some ⟨r.role, "devel", r.jobName⟩ }

theorem Record.backfill_eq_completed (r : Record) : r.backfill = r.completed := by
  rcases r with ⟨_, _, _, environment, jobKey, _, _⟩
  cases environment <;> cases jobKey <;> rfl

theorem Record.taskId_completed (r : Record) : r.completed.taskId = r.taskId := by
  rw [← backfill_eq_completed]
  rfl

/-- What a store holds, as it is seen from outside. -/
structure Ledger where
  identity : Option String := none
  /-- The records, each under its task. -/
  records : Finmap fun _ : String => Record := ∅

namespace Store

/-- What can be asked of a store. -/
inductive Request where
  | setFrameworkId (id : String)
  | frameworkId
  | put (r : Record)
  | get (taskId : String)
  | list
  | delete (taskId : String)
  | backfill
  deriving DecidableEq

inductive Answer where
  | done
  | identity (id : Option String)
  | record (r : Option Record)
  | records (rs : List Record)
  | existed (b : Bool)
  | repaired (count : Nat)
  deriving DecidableEq

def perform (s : Store) : Request → Except StoreError Answer × Store
  | .setFrameworkId id => (.ok .done, s.setFrameworkId id)
  | .frameworkId => (s.frameworkId.map .identity, s)
  | .put r => (.ok .done, s.put r)
  | .get taskId => ((s.get taskId).map .record, s)
  | .list => (s.list.map .records, s)
  | .delete taskId => (.ok (.existed (s.delete taskId).1), (s.delete taskId).2)
  | .backfill =>
    match s.backfill with
    | .ok (count, s) => (.ok (.repaired count), s)
    | .error e => (.error e, s)

end Store

namespace Ledger

/-- The order of keys by their bytes. -/
def ByteLe (a b : String) : Prop := a = b ∨ a.toUTF8.toList < b.toUTF8.toList

theorem byteLe_iff {a b : String} : ByteLe a b ↔ a ≤ b := by
  rw [ByteLe, ← Text.lt_iff_bytes_lt, le_iff_eq_or_lt]

instance : DecidableRel ByteLe := fun _ _ => inferInstanceAs (Decidable (_ ∨ _))

instance : IsTrans String ByteLe where
  trans _ _ _ ab bc := byteLe_iff.mpr (le_trans (byteLe_iff.mp ab) (byteLe_iff.mp bc))

instance : Std.Antisymm ByteLe where
  antisymm _ _ ab ba := le_antisymm (byteLe_iff.mp ab) (byteLe_iff.mp ba)

instance : Std.Total ByteLe where
  total a b := (le_total a b).imp byteLe_iff.mpr byteLe_iff.mpr

variable (m : Ledger)

/-- All records, in ascending order of the bytes of their keys. -/
def list : List Record := (m.records.keys.sort ByteLe).filterMap fun k => m.records.lookup k

/-- The keys of the records that lack the environment or the job key. -/
def incomplete : Finset String :=
  m.records.keys.filter fun k => (m.records.lookup k).any fun r => !r.isComplete

/-- The records after their repair, each under the key that it has. -/
def repaired : Finmap fun _ : String => Record :=
  Finmap.keysLookupEquiv.symm
    ⟨(m.records.keys, fun k => (m.records.lookup k).map Record.completed), fun k => by
      rw [Option.isSome_map, Finmap.lookup_isSome, Finmap.mem_keys]⟩

def perform : Store.Request → Store.Answer × Ledger
  | .setFrameworkId id => (.done, { m with identity := some id })
  | .frameworkId => (.identity m.identity, m)
  | .put r => (.done, { m with records := m.records.insert r.taskId r })
  | .get taskId => (.record (m.records.lookup taskId), m)
  | .list => (.records m.list, m)
  | .delete taskId =>
    (.existed (decide (taskId ∈ m.records)), { m with records := m.records.erase taskId })
  | .backfill => (.repaired m.incomplete.card, { m with records := m.repaired })

theorem lookup_repaired (k : String) :
    m.repaired.lookup k = (m.records.lookup k).map Record.completed :=
  Finmap.keysLookupEquiv_symm_apply_lookup ..

/-- As many records are listed without an environment or a job key as there are. -/
theorem countP_list : m.list.countP (fun r => !r.isComplete) = m.incomplete.card := by
  have keys := Finset.sort_toFinset m.records.keys ByteLe
  have nodup := m.records.keys.sort_nodup ByteLe
  rw [list, incomplete, List.countP_filterMap]
  generalize m.records.keys.sort ByteLe = l at keys nodup
  rw [← keys, ← List.toFinset_filter, List.toFinset_card_of_nodup (nodup.filter _),
    List.countP_eq_length_filter]
  congr 2
  funext k
  cases m.records.lookup k <;> rfl

end Ledger

/-! ## Stores as ledgers -/

namespace Store

/-- A store holds what a ledger says. -/
structure Holds (s : Store) (m : Ledger) : Prop where
  identity : s.scheduler.get? identityKey = m.identity.map encodeText
  records (k : String) : s.tasks.get? k = (m.records.lookup k).map Record.encode
  keyed {k : String} {r : Record} (found : m.records.lookup k = some r) : r.taskId = k

theorem readRecord_encode (k : String) (r : Record) : readRecord k r.encode = .ok r := by
  rw [readRecord, Record.decode_encode]
  rfl

theorem repaired_encode (r : Record) : repaired r.encode = r.completed.encode := by
  rw [repaired, Record.decode_encode, ← Record.backfill_eq_completed]
  show (if r.isComplete = true then r.encode else r.backfill.encode) = _
  split
  · next complete => rw [Record.backfill_of_isComplete complete]
  · rfl

theorem decodeAll_encode (rs : List Record) :
    decodeAll (rs.map fun r => (r.taskId, r.encode)) = .ok rs := by
  induction rs with
  | nil => rfl
  | cons r rs ih =>
    rw [List.map_cons, decodeAll, readRecord_encode, ih]
    rfl

namespace Holds

variable {s : Store} {m : Ledger}

theorem start : Holds .empty {} := ⟨rfl, fun _ => rfl, nofun⟩

theorem mem_keys_iff (h : s.Holds m) {k : String} : k ∈ s.tasks.keys ↔ k ∈ m.records.keys := by
  rw [Table.mem_keys_iff, h.records, Option.isSome_map, Finmap.lookup_isSome, Finmap.mem_keys]

/-- The table lists the keys as the ledger does. -/
theorem sort_keys (h : s.Holds m) : m.records.keys.sort Ledger.ByteLe = s.tasks.keys := by
  have same : m.records.keys = s.tasks.keys.toFinset := by
    ext k
    rw [List.mem_toFinset, h.mem_keys_iff]
  rw [same, List.toFinset_sort _ s.tasks.nodup_keys]
  exact List.pairwise_map.mpr
    (s.tasks.ascending.imp fun lt => Ledger.byteLe_iff.mpr (le_of_lt lt))

/-- An entry of the table is a record of the ledger, under its own key. -/
theorem exists_record (h : s.Holds m) {entry : String × Bytes} (mem : entry ∈ s.tasks.entries) :
    ∃ r, m.records.lookup entry.1 = some r ∧ entry = (r.taskId, r.encode) := by
  obtain ⟨k, bytes⟩ := entry
  have found := s.tasks.get?_of_mem mem
  rw [h.records, Option.map_eq_some_iff] at found
  obtain ⟨r, found, rfl⟩ := found
  exact ⟨r, found, by rw [h.keyed found]⟩

theorem entries (h : s.Holds m) :
    s.tasks.entries = m.list.map fun r => (r.taskId, r.encode) := by
  rw [Ledger.list, h.sort_keys, Table.keys, List.filterMap_map, List.map_filterMap]
  symm
  calc
    _ = s.tasks.entries.filterMap some := by
      refine List.filterMap_congr fun entry mem => ?_
      obtain ⟨r, found, eq⟩ := h.exists_record mem
      simp only [Function.comp_apply, found, Option.map_some, ← eq]
    _ = s.tasks.entries := List.filterMap_some

theorem list (h : s.Holds m) : s.list = .ok m.list := by
  rw [Store.list, h.entries, decodeAll_encode]

theorem frameworkId (h : s.Holds m) : s.frameworkId = .ok m.identity := by
  rw [Store.frameworkId, h.identity]
  cases m.identity with
  | none => rfl
  | some id =>
    show (orCorrupt _ _ _ (decodeText (encodeText id))).map some = _
    rw [decodeText_encodeText]
    rfl

theorem get (h : s.Holds m) (k : String) : s.get k = .ok (m.records.lookup k) := by
  rw [Store.get, h.records]
  cases m.records.lookup k with
  | none => rfl
  | some r =>
    show (readRecord k r.encode).map some = _
    rw [readRecord_encode]
    rfl

theorem contains (h : s.Holds m) (k : String) :
    s.tasks.contains k = decide (k ∈ m.records) := by
  rw [Table.contains, h.records, Option.isSome_map, Bool.eq_iff_iff, Finmap.lookup_isSome,
    decide_eq_true_iff]

theorem setFrameworkId (h : s.Holds m) (id : String) :
    (s.setFrameworkId id).Holds { m with identity := some id } where
  identity := by
    rw [Store.setFrameworkId, Table.get?_insert_self]
    rfl
  records := h.records
  keyed := h.keyed

theorem put (h : s.Holds m) (r : Record) :
    (s.put r).Holds { m with records := m.records.insert r.taskId r } where
  identity := h.identity
  records k := by
    rw [Store.put, Table.get?_insert]
    split
    · next same => rw [same, Finmap.lookup_insert]; rfl
    · next other => rw [Finmap.lookup_insert_of_ne _ other, h.records]
  keyed {k r'} found := by
    by_cases same : k = r.taskId
    · subst same
      rw [Finmap.lookup_insert] at found
      rw [Option.some.inj found]
    · rw [Finmap.lookup_insert_of_ne _ same] at found
      exact h.keyed found

theorem delete (h : s.Holds m) (k : String) :
    (s.delete k).2.Holds { m with records := m.records.erase k } where
  identity := h.identity
  records k' := by
    show (s.tasks.erase k).get? k' = _
    rw [Table.get?_erase]
    split
    · next same => rw [same, Finmap.lookup_erase]; rfl
    · next other => rw [Finmap.lookup_erase_ne other, h.records]
  keyed {k' r} found := by
    by_cases same : k' = k
    · subst same
      rw [Finmap.lookup_erase] at found
      cases found
    · rw [Finmap.lookup_erase_ne same] at found
      exact h.keyed found

theorem backfill (h : s.Holds m) :
    ∃ s', s.backfill = .ok (m.incomplete.card, s') ∧
      s'.Holds { m with records := m.repaired } := by
  refine ⟨{ s with tasks := s.tasks.mapValues fun _ bytes => Store.repaired bytes }, ?_,
    h.identity, fun k => ?_, fun {k r} found => ?_⟩
  · rw [backfill_eq, h.list, ← m.countP_list]
    rfl
  · rw [Table.get?_mapValues, h.records, m.lookup_repaired, Option.map_map, Option.map_map]
    congr 1
    funext r
    exact repaired_encode r
  · rw [m.lookup_repaired, Option.map_eq_some_iff] at found
    obtain ⟨before, found, rfl⟩ := found
    exact before.taskId_completed.trans (h.keyed found)

/-- A store answers what it is asked as its ledger does, and then holds what the ledger says. -/
theorem perform (h : s.Holds m) (request : Request) :
    (s.perform request).1 = .ok (m.perform request).1 ∧
      (s.perform request).2.Holds (m.perform request).2 := by
  cases request with
  | setFrameworkId id => exact ⟨rfl, h.setFrameworkId id⟩
  | frameworkId => exact ⟨by rw [Store.perform, h.frameworkId]; rfl, h⟩
  | put r => exact ⟨rfl, h.put r⟩
  | get taskId => exact ⟨by rw [Store.perform, h.get]; rfl, h⟩
  | list => exact ⟨by rw [Store.perform, h.list]; rfl, h⟩
  | delete taskId =>
    refine ⟨?_, h.delete taskId⟩
    rw [Store.perform, Store.delete, h.contains]
    rfl
  | backfill =>
    obtain ⟨s', repaired, holds⟩ := h.backfill
    rw [Store.perform, repaired]
    exact ⟨rfl, holds⟩

end Holds

/-! ## Handles on a store -/

/-- What is done with the handles on a store. -/
inductive Use where
  | ask (handle : Nat) (request : Request)
  /-- One more handle on the same store. -/
  | clone (handle : Nat)
  /-- All handles are closed, and the file of the store is opened again. -/
  | reopen
  deriving DecidableEq

/-- A store with the handles on it. They share the store, so each of them sees what was done
through any other. -/
structure Opened where
  onDisk : Bool
  store : Store
  handles : Nat := 1

namespace Opened

/-- Opens the store of a file, or makes one in memory. -/
def openAt : Option File → Except StoreError Opened
  | none => .ok { onDisk := false, store := .empty }
  | some file => file.openStore.map fun store => { onDisk := true, store }

/-- Where there is no store yet: in memory, without a file, and at an empty one. -/
def newPlaces : List (Option File) := [none, some .absent, some (.plain [])]

/-- A use of a handle that is not open does not exist, and a store in memory cannot be opened
again. -/
def step? (o : Opened) : Use → Option (Except StoreError Answer × Opened)
  | .ask handle request =>
    if handle < o.handles then
      some ((o.store.perform request).1, { o with store := (o.store.perform request).2 })
    else none
  | .clone handle =>
    if handle < o.handles then some (.ok .done, { o with handles := o.handles + 1 }) else none
  | .reopen =>
    if o.onDisk then
      match (File.store o.store).openStore with
      | .ok store => some (.ok .done, { o with store, handles := 1 })
      | .error e => some (.error e, { o with handles := 0 })
    else none

def run? (o : Opened) : List Use → Option (List (Except StoreError Answer) × Opened)
  | [] => some ([], o)
  | use :: rest => do
    let (answer, o) ← o.step? use
    let (answers, o) ← o.run? rest
    return (answer :: answers, o)

end Opened

namespace Use

/-- The handles that are open after a use, if the use can be made. -/
def handlesAfter? (onDisk : Bool) (handles : Nat) : Use → Option Nat
  | ask handle _ => if handle < handles then some handles else none
  | clone handle => if handle < handles then some (handles + 1) else none
  | reopen => if onDisk then some 1 else none

/-- Whether uses can be made one after another: each goes through a handle that is open, and only a
store on disk is opened again. -/
def arePossible (onDisk : Bool) (handles : Nat) : List Use → Bool
  | [] => true
  | use :: rest =>
    match use.handlesAfter? onDisk handles with
    | some handles => arePossible onDisk handles rest
    | none => false

/-- The identity after a use of the store. -/
def identityAfter (current : Option String) : Use → Option String
  | ask _ (.setFrameworkId id) => some id
  | _ => current

/-- The record of a task after a use of the store. -/
def recordAfter (taskId : String) (current : Option Record) : Use → Option Record
  | ask _ (.put r) => if r.taskId = taskId then some r else current
  | ask _ (.delete deleted) => if deleted = taskId then none else current
  | ask _ .backfill => current.map Record.completed
  | _ => current

end Use

end Store

namespace Ledger

/-- Handles make no difference to a ledger, nor does opening its store again. -/
def step (m : Ledger) : Store.Use → Store.Answer × Ledger
  | .ask _ request => m.perform request
  | .clone _ | .reopen => (.done, m)

def run (m : Ledger) : List Store.Use → List Store.Answer × Ledger
  | [] => ([], m)
  | use :: rest => ((m.step use).1 :: ((m.step use).2.run rest).1, ((m.step use).2.run rest).2)

/-- The identity is the last that was set. -/
theorem identity_run (m : Ledger) (uses : List Store.Use) :
    (m.run uses).2.identity = uses.foldl Store.Use.identityAfter m.identity := by
  induction uses generalizing m with
  | nil => rfl
  | cons use rest ih =>
    rw [run, ih, List.foldl_cons]
    congr 1
    cases use with
    | ask handle request => cases request <;> rfl
    | clone | reopen => rfl

/-- A record is the last that was put under its task since it was last deleted, repaired as often as
all are. -/
theorem lookup_run (m : Ledger) (uses : List Store.Use) (k : String) :
    (m.run uses).2.records.lookup k =
      uses.foldl (Store.Use.recordAfter k) (m.records.lookup k) := by
  induction uses generalizing m with
  | nil => rfl
  | cons use rest ih =>
    rw [run, ih, List.foldl_cons]
    congr 1
    cases use with
    | clone | reopen => rfl
    | ask handle request =>
      cases request with
      | put r =>
        show (m.records.insert r.taskId r).lookup k = if r.taskId = k then some r else _
        split
        · next same => rw [← same, Finmap.lookup_insert]
        · next other => rw [Finmap.lookup_insert_of_ne _ (Ne.symm other)]
      | delete k' =>
        show (m.records.erase k').lookup k = if k' = k then none else _
        split
        · next same => rw [same, Finmap.lookup_erase]
        · next other => rw [Finmap.lookup_erase_ne (Ne.symm other)]
      | backfill => exact m.lookup_repaired k
      | _ => rfl

end Ledger

namespace Store

variable {o : Opened} {m : Ledger}

/-- Whoever uses the store, it answers as its ledger does. -/
theorem Holds.step? (h : o.store.Holds m) {use : Use} {handles : Nat}
    (possible : use.handlesAfter? o.onDisk o.handles = some handles) :
    ∃ store, o.step? use = some (.ok (m.step use).1, { o with store, handles }) ∧
      store.Holds (m.step use).2 := by
  cases use with
  | ask handle request =>
    obtain ⟨isOpen, rfl⟩ : handle < o.handles ∧ o.handles = handles := by
      simpa [Use.handlesAfter?] using possible
    obtain ⟨answer, holds⟩ := h.perform request
    exact ⟨_, by rw [Opened.step?, if_pos isOpen, answer]; rfl, holds⟩
  | clone handle =>
    obtain ⟨isOpen, rfl⟩ : handle < o.handles ∧ o.handles + 1 = handles := by
      simpa [Use.handlesAfter?] using possible
    exact ⟨_, by rw [Opened.step?, if_pos isOpen]; rfl, h⟩
  | reopen =>
    obtain ⟨onDisk, rfl⟩ : o.onDisk = true ∧ 1 = handles := by
      simpa [Use.handlesAfter?] using possible
    exact ⟨_, by rw [Opened.step?, if_pos onDisk]; rfl, h⟩

theorem Holds.run? (h : o.store.Holds m) {uses : List Use}
    (possible : Use.arePossible o.onDisk o.handles uses = true) :
    ∃ o', o.run? uses = some ((m.run uses).1.map .ok, o') ∧ o'.store.Holds (m.run uses).2 := by
  induction uses generalizing o m with
  | nil => exact ⟨o, rfl, h⟩
  | cons use rest ih =>
    rw [Use.arePossible] at possible
    split at possible
    · next handles one =>
      obtain ⟨store, step, holds⟩ := h.step? one
      obtain ⟨o', run, holds⟩ := ih (o := { o with store, handles }) holds possible
      refine ⟨o', ?_, holds⟩
      rw [Opened.run?, step]
      show (do let (answers, o) ← Opened.run? _ rest; return _) = _
      rw [run]
      rfl
    · cases possible

theorem Opened.openAt_of_new {file : Option File} (new : file ∈ newPlaces) :
    openAt file = .ok { onDisk := file.isSome, store := .empty } := by
  simp only [newPlaces, List.mem_cons, List.not_mem_nil, or_false] at new
  rcases new with rfl | rfl | rfl <;> rfl

/-- A store is a map. Whatever is asked of a new one, through whichever handles, and however often
it is closed and opened again, nothing fails, and the answers are those of its ledger. Afterwards
the identity is the last that was set, and a task's record is the last that was put under the task
since it was last deleted, after all repairs since then. -/
theorem answers_as_ledger {file : Option File} (new : file ∈ Opened.newPlaces) {uses : List Use}
    (possible : Use.arePossible file.isSome 1 uses = true) :
    ∃ o o', Opened.openAt file = .ok o ∧
      o.run? uses = some ((({} : Ledger).run uses).1.map .ok, o') ∧
      o'.store.frameworkId = .ok (uses.foldl Use.identityAfter none) ∧
      ∀ taskId, o'.store.get taskId = .ok (uses.foldl (Use.recordAfter taskId) none) := by
  obtain ⟨o', run, holds⟩ :=
    Holds.run? (o := { onDisk := file.isSome, store := .empty }) .start possible
  refine ⟨_, o', Opened.openAt_of_new new, run, ?_, fun taskId => ?_⟩
  · rw [holds.frameworkId, Ledger.identity_run]
  · rw [holds.get, Ledger.lookup_run]
    rfl

namespace Use

/-- A record of an older scheduler. -/
def legacy (taskId : String) : Record := ⟨taskId, "www-data", "api", none, none, .running, 17⟩

/-- Two handles on a file are used in turn, around a repair and a second opening. -/
def interleaved : List Use :=
  [.ask 0 (.put (legacy "é")), .clone 0, .ask 1 (.put (legacy "z")), .ask 0 (.setFrameworkId "f"),
    .ask 1 .list, .ask 0 .backfill, .reopen, .ask 0 .backfill, .clone 0, .ask 1 (.delete "é"),
    .ask 0 .list, .ask 1 .frameworkId]

end Use

/-- What was put in through one handle is read through another, and in the order of the bytes. -/
theorem answers_as_ledger_of_interleaved :
    some File.absent ∈ Opened.newPlaces ∧ Use.arePossible true 1 Use.interleaved = true ∧
    ∃ o o', Opened.openAt (some .absent) = .ok o ∧
      o.run? Use.interleaved = some ((({} : Ledger).run Use.interleaved).1.map .ok, o') ∧
      o'.store.frameworkId = .ok (some "f") ∧
      o'.store.get "é" = .ok none ∧
      o'.store.get "z" = .ok (some ⟨"z", "www-data", "api", some "devel",
        some ⟨"www-data", "devel", "api"⟩, .running, 17⟩) := by
  have new : some File.absent ∈ Opened.newPlaces := .tail _ (.head _)
  have possible : Use.arePossible true 1 Use.interleaved = true := by decide
  obtain ⟨o, o', opened, run, identity, record⟩ := answers_as_ledger new possible
  exact ⟨new, possible, o, o', opened, run, identity, record "é", record "z"⟩

end Store
end Tenure
