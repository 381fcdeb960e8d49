import Mathlib.Logic.Function.Basic
import Tenure.Proofs.Document

/-!
# What is kept of a record is all of it

A record is written without the fields that it lacks, and read with those fields as absent; its
status is written as a name and its time in digits. Each field is read as it was written, so
the record that is read is the one that was written, whatever it holds. The store gives back what
was put into it last.
-/
namespace Tenure

open Json (Tree Fault)

namespace Json

theorem memberTrees_append (members others : List (String × Json)) :
    memberTrees (members ++ others) = memberTrees members ++ memberTrees others := by
  induction members with
  | nil => rfl
  | cons member members ih => simp [memberTrees, ih]

/-- Members are taken into a draft one part after the other. -/
theorem Tree.fillDraft_append {σ : Type} {put : σ → String → Tree → Except Fault σ} {d d' : σ}
    {members : List (Option String × Tree)} (filled : fillDraft put d members = .ok d')
    (others : List (Option String × Tree)) :
    fillDraft put d (members ++ others) = fillDraft put d' others := by
  induction members generalizing d with
  | nil =>
    cases filled
    rfl
  | cons member members ih =>
    obtain ⟨key | key, value⟩ := member
    · cases filled
    · rw [List.cons_append, fillDraft]
      rw [fillDraft] at filled
      split at filled
      · exact ih filled
      · cases filled

theorem Tree.asWord_nat (n : UInt64) : (nat n.toNat).toTree.asWord = .ok n := by
  have value := Numeral.integer?_ofNat n.toNat_lt
  simp [nat, toTree, asWord, value]

end Json

theorem TaskStatus.asVariant_label (origin : Json.Origin) (s : TaskStatus) :
    (Tree.text (some s.label)).asVariant origin named = .ok s := by
  cases s <;> rfl

namespace Record

variable {origin : Json.Origin}

/-- The numbers that are written of a record are natural. -/
theorem naturals (r : Record) (n : Json.Numeral) (mem : .number n ∈ r.toJson.tokens) :
    ∃ k, n = .ofNat k := by
  obtain ⟨_, _, _, environment, jobKey, _, updatedAt⟩ := r
  refine ⟨updatedAt.toNat, ?_⟩
  cases environment <;> cases jobKey <;>
    simpa [toJson, present, Json.tokens, Json.memberTokens, JobKey.toJson, Json.nat] using mem

namespace Draft

theorem fill_environment {d : Draft} (unmet : d.environment = none) (environment : Option String) :
    Tree.fillDraft (put origin) d
        (Json.memberTrees (present "environment" .text environment)) =
      .ok { d with environment := environment.map some } := by
  cases environment with
  | none =>
    rw [Option.map_none, ← unmet]
    rfl
  | some e =>
    simp [present, Json.memberTrees, Json.toTree, Tree.fillDraft, put, unmet, Tree.asOptional,
      Tree.asText, Except.map]

theorem fill_jobKey {d : Draft} (unmet : d.jobKey = none) (jobKey : Option JobKey) :
    Tree.fillDraft (put origin) d (Json.memberTrees (present "job_key" JobKey.toJson jobKey)) =
      .ok { d with jobKey := jobKey.map some } := by
  cases jobKey with
  | none =>
    rw [Option.map_none, ← unmet]
    rfl
  | some k =>
    have read : (k.toJson.toTree.asOptional (JobKey.ofTree origin)) = .ok (some k) := rfl
    simp [present, Json.memberTrees, Tree.fillDraft, put, unmet, read, Except.map]

theorem fill_toJson (r : Record) :
    Tree.fillDraft (put origin) {} (Json.memberTrees
      ([("task_id", Json.text r.taskId), ("role", Json.text r.role),
          ("job_name", Json.text r.jobName)] ++
        present "environment" Json.text r.environment ++ present "job_key" JobKey.toJson r.jobKey ++
        [("status", Json.text r.status.label), ("updated_at", Json.nat r.updatedAt.toNat)])) =
      .ok ⟨r.taskId, r.role, r.jobName, r.environment.map some, r.jobKey.map some, r.status,
        r.updatedAt⟩ := by
  have names : Tree.fillDraft (put origin) {} (Json.memberTrees
      [("task_id", Json.text r.taskId), ("role", Json.text r.role),
        ("job_name", Json.text r.jobName)]) =
      .ok { taskId := r.taskId, role := r.role, jobName := r.jobName } := rfl
  have status := r.status.asVariant_label origin
  have updatedAt := Tree.asWord_nat r.updatedAt
  simp only [Json.memberTrees_append, List.append_assoc]
  rw [Tree.fillDraft_append names, Tree.fillDraft_append (fill_environment rfl r.environment),
    Tree.fillDraft_append (fill_jobKey rfl r.jobKey)]
  simp [Json.memberTrees, Json.toTree, Tree.fillDraft, put, Except.map, status, updatedAt]

end Draft

theorem ofTree_toJson (r : Record) : ofTree origin r.toJson.toTree = .ok r := by
  show (do (← Tree.fromMembers (Draft.put origin) {} (Json.memberTrees _) .closed).complete) = _
  rw [Tree.fromMembers, Draft.fill_toJson]
  obtain ⟨_, _, _, environment, jobKey, _, _⟩ := r
  cases environment <;> cases jobKey <;> rfl

/-- A record is read as it was written. -/
theorem decode_encode (r : Record) : decode r.encode = .ok r := by
  rw [decode, encode, Tree.ofBytes_encode r.toJson r.naturals]
  show (do
    let record ← ofTree .text r.toJson.toTree
    if false then throw Fault.malformed
    return record) = _
  rw [ofTree_toJson]
  rfl

end Record

namespace Store

/-- The record that was put in last under a key is what is found there. -/
theorem get_put (s : Store) (r : Record) : (s.put r).get r.taskId = .ok (some r) := by
  rw [get, put, Table.get?_insert_self]
  show (orCorrupt r.taskId Record.scan r.encode (Record.decode r.encode)).map some = _
  rw [Record.decode_encode]
  rfl

/-- Nothing is lost between writing and reading: every record and every identity is read as it was
written, so no two are written alike, and a store gives back what was put into it. -/
theorem kept_whole :
    (∀ r : Record, Record.decode r.encode = .ok r) ∧
    Function.Injective Record.encode ∧
    (∀ (s : Store) (r : Record), (s.put r).tasks.get? r.taskId = some r.encode ∧
      (s.put r).get r.taskId = .ok (some r)) ∧
    (∀ id : String, decodeText (encodeText id) = .ok id) ∧
    Function.Injective encodeText ∧
    ∀ (s : Store) (id : String),
      (s.setFrameworkId id).scheduler.get? identityKey = some (encodeText id) ∧
      (s.setFrameworkId id).frameworkId = .ok (some id) := by
  refine ⟨Record.decode_encode, fun r r' eq => ?_, fun s r => ⟨?_, s.get_put r⟩,
    decodeText_encodeText, fun id id' eq => ?_,
    fun s id => ⟨?_, s.frameworkId_setFrameworkId id⟩⟩
  · have read : Except.ok r = Except.ok r' :=
      (Record.decode_encode r).symm.trans (eq ▸ Record.decode_encode r')
    exact Except.ok.inj read
  · exact Table.get?_insert_self ..
  · have read : Except.ok id = Except.ok id' :=
      (decodeText_encodeText id).symm.trans (eq ▸ decodeText_encodeText id')
    exact Except.ok.inj read
  · exact Table.get?_insert_self ..

end Store
end Tenure
