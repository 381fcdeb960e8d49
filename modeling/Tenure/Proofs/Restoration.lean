import Tenure.Proofs.Ledger
import Tenure.Storage.Durable

/-!
# Repairing all records or none

A store may hold anything under its keys: values that some other program wrote, records under keys
that are not their tasks', and values that are no records at all. If all values are records, a
repair supplies what they lack, each under its own key, and touches nothing else. If one is not,
the repair fails as a listing would, at the same key and for the same reason, and nothing changes.
-/
namespace Tenure.Store

variable {s : Store}

/-! ## All records -/

/-- What is stored under a key is a record without an environment or without a job key. -/
def Lacks (s : Store) (key : String) : Prop :=
  ∃ bytes record, s.tasks.get? key = some bytes ∧ Record.decode bytes = .ok record ∧
    (record.environment = none ∨ record.jobKey = none)

/-- The keys under which something is missing. -/
def lacking (s : Store) : Finset String :=
  (s.tasks.entries.filter fun entry => isLacking entry.2).map Prod.fst |>.toFinset

theorem isLacking_eq_true_iff {bytes : Bytes} :
    isLacking bytes = true ↔ ∃ record, Record.decode bytes = .ok record ∧
      (record.environment = none ∨ record.jobKey = none) := by
  cases decoded : Record.decode bytes with
  | error fault => simp [isLacking, decoded]
  | ok record =>
    rw [isLacking_of_decode decoded, Bool.not_eq_true', Record.isComplete_eq_false_iff]
    simp

theorem mem_lacking_iff {key : String} : key ∈ s.lacking ↔ s.Lacks key := by
  rw [lacking, List.mem_toFinset, List.mem_map, Lacks]
  constructor
  · rintro ⟨⟨_, bytes⟩, mem, rfl⟩
    obtain ⟨mem, isLacking⟩ := List.mem_filter.mp mem
    obtain ⟨record, decoded, missing⟩ := isLacking_eq_true_iff.mp isLacking
    exact ⟨bytes, record, s.tasks.get?_of_mem mem, decoded, missing⟩
  · rintro ⟨bytes, record, found, decoded, missing⟩
    refine ⟨(key, bytes), List.mem_filter.mpr ⟨s.tasks.mem_of_get? found, ?_⟩, rfl⟩
    exact isLacking_eq_true_iff.mpr ⟨record, decoded, missing⟩

/-- As many records are written as there are keys under which something is missing. -/
theorem card_lacking {records : List Record} (listed : s.list = .ok records) :
    s.lacking.card = records.countP fun r => !r.isComplete := by
  have nodup : ((s.tasks.entries.filter fun entry => isLacking entry.2).map Prod.fst).Nodup :=
    s.tasks.nodup_keys.sublist (List.filter_sublist.map _)
  rw [lacking, List.toFinset_card_of_nodup nodup, List.length_map, length_filter_isLacking listed]

theorem backfill_eq_ok (readable : s.Readable) :
    s.backfill = .ok (s.lacking.card, s.backfilled) := by
  obtain ⟨records, listed⟩ := decodeAll_eq_ok readable
  rw [backfill_eq, list, listed, card_lacking listed]
  rfl

/-- A record that was repaired can be read, and nothing is missing in it. -/
theorem decode_repaired {bytes : Bytes} {r : Record} (decoded : Record.decode bytes = .ok r) :
    ∃ r', Record.decode (repaired bytes) = .ok r' ∧ r'.isComplete = true := by
  rw [repaired_of_decode decoded]
  split
  · next complete => exact ⟨r, decoded, complete⟩
  · exact ⟨r.backfill, Record.decode_encode _, r.isComplete_backfill⟩

theorem Readable.backfilled (readable : s.Readable) : s.backfilled.Readable := by
  intro entry mem
  obtain ⟨⟨key, bytes⟩, old, rfl⟩ := List.mem_map.mp mem
  obtain ⟨r, decoded⟩ := readable _ old
  obtain ⟨r', decoded', -⟩ := decode_repaired decoded
  exact ⟨r', decoded'⟩

theorem Readable.lacking_backfilled (readable : s.Readable) : s.backfilled.lacking = ∅ := by
  refine Finset.eq_empty_of_forall_notMem fun key mem => ?_
  obtain ⟨after, r, found, decoded, missing⟩ := mem_lacking_iff.mp mem
  rw [Store.backfilled, Table.get?_mapValues, Option.map_eq_some_iff] at found
  obtain ⟨before, found, rfl⟩ := found
  obtain ⟨old, wasDecoded⟩ := readable _ (s.tasks.mem_of_get? found)
  obtain ⟨r', decoded', complete⟩ := decode_repaired wasDecoded
  cases decoded.symm.trans decoded'
  simp [Record.isComplete_eq_false_iff.mpr missing] at complete

theorem backfilled_of_complete (readable : s.Readable) (complete : s.lacking = ∅) :
    s.backfilled = s := by
  have same : s.backfilled.tasks = s.tasks := Table.ext_get? fun key => by
    rw [Store.backfilled, Table.get?_mapValues]
    cases found : s.tasks.get? key with
    | none => rfl
    | some bytes =>
      obtain ⟨record, decoded⟩ := readable _ (s.tasks.mem_of_get? found)
      have isLacking : isLacking bytes = false := Bool.eq_false_iff.mpr fun isLacking => by
        obtain ⟨record, decoded, missing⟩ := isLacking_eq_true_iff.mp isLacking
        have mem := mem_lacking_iff.mpr ⟨bytes, record, found, decoded, missing⟩
        simp [complete] at mem
      rw [Option.map_some, repaired_of_not_isLacking isLacking]
  cases s
  simpa [Store.backfilled] using same

/-- A repair of a store in which every value is a record. Under each key where the environment or
the job key is missing it writes the record with what is missing: the environment `devel`, and the
job of the role, that environment and the name. All else stays as it was, the values of complete
records to the byte, and a second repair has nothing to do. -/
theorem backfill_restores (readable : s.Readable) :
    ∃ (lacking : Finset String) (s' : Store), (∀ key, key ∈ lacking ↔ s.Lacks key) ∧
      s.backfill = .ok (lacking.card, s') ∧
      (∀ key bytes r, s.tasks.get? key = some bytes → Record.decode bytes = .ok r →
        s'.tasks.get? key = some (if key ∈ lacking then
          Record.encode { r with
            environment := some (r.environment.getD "devel")
            jobKey := some (r.jobKey.getD ⟨r.role, r.environment.getD "devel", r.jobName⟩) }
          else bytes)) ∧
      s'.tasks.keys = s.tasks.keys ∧ s'.scheduler = s.scheduler ∧
      s'.backfill = .ok (0, s') := by
  have complete := readable.lacking_backfilled
  refine ⟨s.lacking, s.backfilled, fun key => mem_lacking_iff, backfill_eq_ok readable,
    fun key bytes r found decoded => ?_, ?_, rfl, ?_⟩
  · have lacks : key ∈ s.lacking ↔ r.isComplete = false := by
      rw [mem_lacking_iff, Record.isComplete_eq_false_iff, Lacks]
      simp [found, decoded]
    rw [Store.backfilled, Table.get?_mapValues, found, Option.map_some,
      repaired_of_decode decoded]
    cases isComplete : r.isComplete with
    | true => rw [if_pos rfl, if_neg (by simp [lacks, isComplete])]
    | false =>
      rw [if_neg nofun, if_pos (lacks.mpr isComplete)]
      rfl
  · simp [Table.keys, Store.backfilled, Table.mapValues]
  · rw [backfill_eq_ok readable.backfilled, complete,
      backfilled_of_complete readable.backfilled complete]
    rfl

/-- A record in a form in which none is written now. -/
def handwritten : Bytes :=
  "\x7b\"updated_at\": 7, \"status\": \"lost\", \"task_id\": \"t-1\", \"job_name\": \"api\",
  \"role\": \"www\", \"environment\": \"test\"\x7d".toUTF8.toList

/-- A complete record as an array. -/
def itemized : Bytes :=
  "[\"t-2\", \"www\", \"api\", \"test\", [\"www\", \"test\", \"api\"], \"lost\", 7]".toUTF8.toList

/-- A store that was written by another program, where a key need not be the task of its record. -/
def foreign : Store :=
  ⟨.empty, [("stray", handwritten), ("t-2", itemized)], by decide⟩

theorem decode_handwritten : Record.decode handwritten =
    .ok ⟨"t-1", "www", "api", some "test", none, .lost, 7⟩ := by
  decide +kernel

theorem decode_itemized : Record.decode itemized =
    .ok ⟨"t-2", "www", "api", some "test", some ⟨"www", "test", "api"⟩, .lost, 7⟩ := by
  decide +kernel

/-- The record under the stray key is completed there, and the complete one keeps its form. -/
theorem backfill_restores_foreign : foreign.Readable ∧
    ∃ (lacking : Finset String) (s' : Store), foreign.backfill = .ok (lacking.card, s') ∧
      s'.tasks.get? "stray" = some (Record.encode
        ⟨"t-1", "www", "api", some "test", some ⟨"www", "test", "api"⟩, .lost, 7⟩) ∧
      s'.tasks.get? "t-2" = some itemized := by
  have readable : foreign.Readable :=
    List.forall_mem_cons.mpr ⟨⟨_, decode_handwritten⟩, List.forall_mem_cons.mpr
      ⟨⟨_, decode_itemized⟩, nofun⟩⟩
  obtain ⟨lacking, s', lacks, done, values, -, -, -⟩ := backfill_restores readable
  have stray := values "stray" _ _ rfl decode_handwritten
  have complete := values "t-2" _ _ rfl decode_itemized
  rw [if_pos ((lacks _).mpr ⟨_, _, rfl, decode_handwritten, .inr rfl⟩)] at stray
  refine ⟨readable, lacking, s', done, stray, complete.trans ?_⟩
  rw [if_neg]
  rintro mem
  obtain ⟨_, _, found, decoded, missing⟩ := (lacks _).mp mem
  cases found
  cases decode_itemized.symm.trans decoded
  simp at missing

/-! ## Or none -/

/-- Whatever has an earlier key than an entry comes before it. -/
theorem mem_before_of_lt {before after : List (String × Bytes)} {key key' : String}
    {bytes bytes' : Bytes} (entries : s.tasks.entries = before ++ (key, bytes) :: after)
    (found : s.tasks.get? key' = some bytes') (earlier : key' < key) :
    (key', bytes') ∈ before := by
  have ascending := s.tasks.ascending
  have mem := s.tasks.mem_of_get? found
  rw [entries] at ascending mem
  obtain ⟨-, ascending, -⟩ := List.pairwise_append.mp ascending
  rcases List.mem_append.mp mem with mem | mem
  · exact mem
  · rcases List.mem_cons.mp mem with same | mem
    · cases same
      exact (String.lt_irrefl _ earlier).elim
    · exact (String.lt_asymm earlier ((List.pairwise_cons.mp ascending).1 _ mem)).elim

/-- A store is repaired just if it can be listed. If it cannot, there is a key, the first by its
bytes whose value is no record, that both the repair and the listing name, each with the reason why
that value cannot be read; then nothing has changed, in the store and in the storage that keeps
it. -/
theorem backfill_fails_as_list (s : Store) :
    ((∃ count s', s.backfill = .ok (count, s')) ↔ ∃ records, s.list = .ok records) ∧
    ((∃ key bytes fault, s.tasks.get? key = some bytes ∧ Record.decode bytes = .error fault) →
      ∃ key bytes fault, s.tasks.get? key = some bytes ∧ Record.decode bytes = .error fault ∧
        (∀ key' bytes', s.tasks.get? key' = some bytes' →
          key'.toUTF8.toList < key.toUTF8.toList → ∃ record, Record.decode bytes' = .ok record) ∧
        s.perform .backfill = (.error (.corrupt key (reason Record.scan bytes fault)), s) ∧
        s.perform .list = (.error (.corrupt key (reason Record.scan bytes fault)), s) ∧
        ∀ d : Durable, d.contents = s → Durable.storage.backfill.run d =
          (Durable.ofStore (.error (.corrupt key (reason Record.scan bytes fault))), d)) := by
  refine ⟨?_, fun spoilt => ?_⟩
  · rw [backfill_eq]
    cases s.list <;> simp [Except.map]
  · have unreadable : ¬ s.Readable := fun readable => by
      obtain ⟨key, bytes, fault, found, spoilt⟩ := spoilt
      obtain ⟨record, decoded⟩ := readable _ (s.tasks.mem_of_get? found)
      cases spoilt.symm.trans decoded
    obtain ⟨before, key, bytes, after, fault, entries, legible, spoilt, listed⟩ :=
      exists_corrupt unreadable
    have found : s.tasks.get? key = some bytes := Table.get?_of_mem (by simp [entries])
    have failed : s.backfill = .error (.corrupt key (reason Record.scan bytes fault)) := by
      rw [backfill_eq, list, listed]
      rfl
    refine ⟨key, bytes, fault, found, spoilt, fun key' bytes' found' earlier => ?_, ?_, ?_, ?_⟩
    · exact legible _ (mem_before_of_lt entries found' ((Text.lt_iff_bytes_lt ..).mpr earlier))
    · rw [perform, failed]
    · rw [perform, list, listed]
      rfl
    · rintro d rfl
      simp [Durable.storage, failed]
      rfl

/-- A store in which a record that lacks something comes before two values that are none. -/
def spoilt : Store :=
  ⟨.empty, [("a", handwritten), ("b", []), ("c", [])], by decide⟩

/-- The first of the values that are no records is named, and the record before it is left as it
was. -/
theorem backfill_fails_as_list_spoilt :
    (∃ key bytes fault, spoilt.tasks.get? key = some bytes ∧ Record.decode bytes = .error fault) ∧
    ∃ reason, spoilt.perform .backfill = (.error (.corrupt "b" reason), spoilt) ∧
      spoilt.perform .list = (.error (.corrupt "b" reason), spoilt) := by
  have unread : ∃ fault, Record.decode [] = .error fault := ⟨_, rfl⟩
  obtain ⟨fault, unread⟩ := unread
  have some : ∃ key bytes fault, spoilt.tasks.get? key = some bytes ∧
      Record.decode bytes = .error fault := ⟨"b", [], fault, rfl, unread⟩
  obtain ⟨key, bytes, fault', found, corrupt, legible, repaired, listed, -⟩ :=
    (backfill_fails_as_list spoilt).2 some
  suffices first : key = "b" from ⟨some, _, first ▸ repaired, first ▸ listed⟩
  have mem := spoilt.tasks.mem_of_get? found
  simp only [spoilt, List.mem_cons, Prod.mk.injEq, List.not_mem_nil, or_false] at mem
  rcases mem with ⟨-, rfl⟩ | ⟨first, -⟩ | ⟨rfl, -⟩
  · cases corrupt.symm.trans decode_handwritten
  · exact first
  · obtain ⟨_, read⟩ := legible "b" [] rfl ((Text.lt_iff_bytes_lt _ _).mp (by decide))
    cases unread.symm.trans read

end Tenure.Store
