import Tenure.Store

/-!
# What a repair does to a store

A repair reads all records, as a listing does, and so it fails where a listing fails and for the
same reason. If it succeeds it has written the incomplete records, each under the key that it had;
seen by its keys, the table is the old one with every value repaired.
-/
namespace Tenure

/-! ## Many insertions -/

namespace Table

theorem lookup_eq_none_of_ne {entries : List (String × Bytes)} {k : String}
    (others : ∀ entry ∈ entries, k ≠ entry.1) : entries.lookup k = none := by
  rw [List.lookup_eq_none_iff]
  intro entry mem
  simpa using others entry mem

theorem get?_insertAll (t : Table) {entries : List (String × Bytes)}
    (distinct : entries.Pairwise fun a b => a.1 ≠ b.1) (k : String) :
    (t.insertAll entries).get? k = (entries.lookup k).or (t.get? k) := by
  induction entries generalizing t with
  | nil => rfl
  | cons entry rest ih =>
    obtain ⟨first, distinct⟩ := List.pairwise_cons.mp distinct
    show ((t.insert entry.1 entry.2).insertAll rest).get? k = _
    rw [ih _ distinct, get?_insert, lookup_cons]
    by_cases same : k = entry.1
    · subst same
      simp [lookup_eq_none_of_ne first]
    · simp [same]

end Table

namespace Store

variable {s : Store}

/-! ## Stores that can be read -/

/-- Every task's value is that of a record. -/
def Readable (s : Store) : Prop :=
  ∀ entry ∈ s.tasks.entries, ∃ record, Record.decode entry.2 = .ok record

theorem readRecord_of_decode {key : String} {bytes : Bytes} {r : Record}
    (decoded : Record.decode bytes = .ok r) : readRecord key bytes = .ok r := by
  rw [readRecord, decoded]
  rfl

theorem readRecord_of_fault {key : String} {bytes : Bytes} {fault : Json.Fault}
    (spoilt : Record.decode bytes = .error fault) :
    readRecord key bytes = .error (.corrupt key (reason Record.scan bytes fault)) := by
  rw [readRecord, spoilt]
  rfl

theorem decodeAll_eq_ok {entries : List (String × Bytes)}
    (h : ∀ entry ∈ entries, ∃ record, Record.decode entry.2 = .ok record) :
    ∃ records, decodeAll entries = .ok records := by
  induction entries with
  | nil => exact ⟨[], rfl⟩
  | cons entry rest ih =>
    obtain ⟨record, decoded⟩ := h entry List.mem_cons_self
    obtain ⟨records, rest_ok⟩ := ih fun e mem => h e (List.mem_cons_of_mem _ mem)
    refine ⟨record :: records, ?_⟩
    rw [decodeAll, readRecord_of_decode decoded, rest_ok]
    rfl

/-- A listing that fails names the first entry that cannot be read. -/
theorem exists_corrupt (h : ¬ s.Readable) :
    ∃ before key bytes after fault, s.tasks.entries = before ++ (key, bytes) :: after ∧
      (∀ entry ∈ before, ∃ record, Record.decode entry.2 = .ok record) ∧
      Record.decode bytes = .error fault ∧
      decodeAll s.tasks.entries = .error (.corrupt key (reason Record.scan bytes fault)) := by
  rw [Readable] at h
  generalize s.tasks.entries = entries at h
  induction entries with
  | nil => exact (h (by simp)).elim
  | cons entry rest ih =>
    obtain ⟨key, bytes⟩ := entry
    cases decoded : Record.decode bytes with
    | error fault =>
      refine ⟨[], key, bytes, rest, fault, rfl, by simp, decoded, ?_⟩
      rw [decodeAll, readRecord_of_fault decoded]
      rfl
    | ok record =>
      obtain ⟨before, k, b, after, fault, rfl, legible, spoilt, listed⟩ := ih fun all =>
        h (List.forall_mem_cons.mpr ⟨⟨record, decoded⟩, all⟩)
      refine ⟨(key, bytes) :: before, k, b, after, fault, rfl,
        List.forall_mem_cons.mpr ⟨⟨record, decoded⟩, legible⟩, spoilt, ?_⟩
      rw [decodeAll, readRecord_of_decode decoded, listed]
      rfl

/-! ## What is written -/

/-- The bytes of a record after its repair; a complete one keeps the bytes that it has. -/
def repaired (bytes : Bytes) : Bytes :=
  match Record.decode bytes with
  | .ok record => if record.isComplete then bytes else record.backfill.encode
  | .error _ => bytes

/-- The store after its records were repaired. -/
def backfilled (s : Store) : Store :=
  { s with tasks := s.tasks.mapValues fun _ bytes => repaired bytes }

/-- Whether a value is that of a record that lacks something. -/
def isLacking (bytes : Bytes) : Bool :=
  match Record.decode bytes with
  | .ok record => !record.isComplete
  | .error _ => false

theorem isLacking_of_decode {bytes : Bytes} {r : Record} (decoded : Record.decode bytes = .ok r) :
    isLacking bytes = !r.isComplete := by
  rw [isLacking, decoded]

theorem repaired_of_decode {bytes : Bytes} {r : Record} (decoded : Record.decode bytes = .ok r) :
    repaired bytes = if r.isComplete then bytes else r.backfill.encode := by
  rw [repaired, decoded]

theorem repaired_of_not_isLacking {bytes : Bytes} (complete : isLacking bytes = false) :
    repaired bytes = bytes := by
  rw [isLacking] at complete
  rw [repaired]
  split <;> simp_all

/-- A repair reads what a listing reads, and writes the incomplete records alone. -/
theorem repairs_eq (entries : List (String × Bytes)) :
    repairs entries = (decodeAll entries).map fun _ =>
      (entries.filter fun entry => isLacking entry.2).map fun entry =>
        (entry.1, repaired entry.2) := by
  induction entries with
  | nil => rfl
  | cons entry rest ih =>
    obtain ⟨key, bytes⟩ := entry
    rw [repairs, decodeAll, ih]
    cases decoded : Record.decode bytes with
    | error fault =>
      rw [readRecord_of_fault decoded]
      rfl
    | ok record =>
      rw [readRecord_of_decode decoded, List.filter_cons, isLacking_of_decode decoded]
      cases decodeAll rest with
      | error e => rfl
      | ok records =>
        show Except.ok (if record.isComplete then _ else _) =
          Except.ok (List.map _ (if _ then _ else _))
        cases complete : record.isComplete
        · simp [repaired_of_decode decoded, complete]
        · simp

theorem length_filter_isLacking {entries : List (String × Bytes)} {records : List Record}
    (listed : decodeAll entries = .ok records) :
    (entries.filter fun entry => isLacking entry.2).length =
      records.countP fun r => !r.isComplete := by
  induction entries generalizing records with
  | nil =>
    cases listed
    rfl
  | cons entry rest ih =>
    obtain ⟨key, bytes⟩ := entry
    rw [decodeAll] at listed
    cases decoded : Record.decode bytes with
    | error fault => rw [readRecord_of_fault decoded] at listed; cases listed
    | ok record =>
      rw [readRecord_of_decode decoded] at listed
      cases others : decodeAll rest with
      | error => rw [others] at listed; cases listed
      | ok records =>
        rw [others] at listed
        cases listed
        rw [List.filter_cons, isLacking_of_decode decoded, List.countP_cons, ← ih others]
        cases record.isComplete <;> simp

/-- What is written under a key is what the key has, if that lacks something. -/
theorem lookup_written {entries : List (String × Bytes)}
    (ascending : entries.Pairwise fun a b => a.1 < b.1) (k : String) :
    ((entries.filter fun entry => isLacking entry.2).map fun entry =>
        (entry.1, repaired entry.2)).lookup k =
      ((entries.lookup k).filter isLacking).map repaired := by
  induction entries with
  | nil => rfl
  | cons entry rest ih =>
    obtain ⟨first, ascending⟩ := List.pairwise_cons.mp ascending
    rw [Table.lookup_cons]
    by_cases same : k = entry.1
    · subst same
      have once : rest.lookup entry.1 = none :=
        Table.lookup_eq_none_of_ne fun other mem => String.ne_of_lt (first other mem)
      cases lacking : isLacking entry.2 with
      | true => simp [lacking, Option.filter]
      | false =>
        rw [List.filter_cons_of_neg (by simp [lacking]), ih ascending, once]
        simp [Option.filter, lacking]
    · cases lacking : isLacking entry.2 with
      | true => simp [lacking, Table.lookup_cons, same, ih ascending]
      | false => simp [lacking, same, ih ascending]

/-- What is written over the table makes it the table of the repaired values. -/
theorem insertAll_repaired (t : Table) :
    t.insertAll ((t.entries.filter fun entry => isLacking entry.2).map fun entry =>
      (entry.1, repaired entry.2)) = t.mapValues fun _ bytes => repaired bytes := by
  refine Table.ext_get? fun k => ?_
  have distinct : ((t.entries.filter fun entry => isLacking entry.2).map fun entry =>
      (entry.1, repaired entry.2)).Pairwise fun a b => a.1 ≠ b.1 :=
    List.pairwise_map.mpr ((t.ascending.filter _).imp fun lt => String.ne_of_lt lt)
  rw [Table.get?_insertAll t distinct, Table.get?_mapValues, lookup_written t.ascending]
  show (((t.get? k).filter isLacking).map repaired).or (t.get? k) = _
  cases t.get? k with
  | none => rfl
  | some bytes =>
    cases lacking : isLacking bytes with
    | true => simp [Option.filter, lacking]
    | false => simp [Option.filter, lacking, repaired_of_not_isLacking lacking]

/-! ## Repairs -/

/-- A repair is a listing, after which each value is repaired. -/
theorem backfill_eq (s : Store) :
    s.backfill = s.list.map fun records =>
      (records.countP fun r => !r.isComplete, s.backfilled) := by
  rw [backfill, repairs_eq, list]
  cases listed : decodeAll s.tasks.entries with
  | error e => rfl
  | ok records =>
    show Except.ok (_, { s with tasks := s.tasks.insertAll _ }) = Except.ok (_, _)
    rw [insertAll_repaired, List.length_map, length_filter_isLacking listed]
    rfl

theorem backfill_of_readable (h : s.Readable) :
    ∃ count, s.backfill = .ok (count, s.backfilled) := by
  obtain ⟨records, list⟩ := decodeAll_eq_ok h
  exact ⟨records.countP fun r => !r.isComplete, by rw [backfill_eq, Store.list, list]; rfl⟩

/-- One value that cannot be read stops the repair. -/
theorem backfill_of_not_readable (h : ¬ s.Readable) : ∃ e, s.backfill = .error e := by
  obtain ⟨_, _, _, _, _, -, -, -, list⟩ := exists_corrupt h
  exact ⟨_, by rw [backfill_eq, Store.list, list]; rfl⟩

end Store
end Tenure
