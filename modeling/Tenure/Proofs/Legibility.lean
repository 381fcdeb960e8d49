import Tenure.Proofs.Lossless

/-!
# Records of older and newer schedulers can be read

A record may have been written by a scheduler that has fewer fields, or more, and by one that lays
out its documents in another way. What counts are the fields that are known: each of them is there
once, or is one that may be left out. In which order they come, what else there is, how texts and
numbers are written and where blanks stand makes no difference.
-/
namespace Tenure

open Json (Tree Fault Origin)

namespace Json.Tree

/-! ## Fields of an object -/

/-- The values that an object has under a name. -/
def named (name : String) (members : List (Option String × Tree)) : List Tree :=
  members.filterMap fun member => if member.1 = some name then some member.2 else none

theorem named_cons (name : String) (key : Option String) (value : Tree)
    (members : List (Option String × Tree)) :
    named name ((key, value) :: members) =
      if key = some name then value :: named name members else named name members := by
  rw [named, List.filterMap_cons]
  dsimp only
  split <;> simp_all [named]

/-- Whether a field is left out or null, or has one value, which describes something. -/
def MayDescribe {α : Type} (describes : Tree → α → Prop) (values : List Tree) : Option α → Prop
  | none => values = [] ∨ values = [.null]
  | some a => ∃ value, values = [value] ∧ describes value a

/-- Where a field stands that is read as `a`: its one value is to come, or it has come. -/
inductive Awaited {α : Type} (read : Tree → Except Fault α) (a : α) : Option α → List Tree → Prop
  | ahead {value : Tree} (reads : read value = .ok a) : Awaited read a none [value]
  | met : Awaited read a (some a) []

theorem Awaited.eq_some {α : Type} {read : Tree → Except Fault α} {a : α} {met : Option α}
    (h : Awaited read a met []) : met = some a := by
  cases h
  rfl

theorem Awaited.take {α : Type} {read : Tree → Except Fault α} {a : α} {met : Option α}
    {value : Tree} {values : List Tree} (h : Awaited read a met (value :: values)) :
    met = none ∧ read value = .ok a ∧ values = [] := by
  cases h with
  | ahead reads => exact ⟨rfl, reads, rfl⟩

/-- Where a field stands that may be missing. -/
inductive AwaitedIfAny {α : Type} (read : Tree → Except Fault α) (a : Option α) :
    Option (Option α) → List Tree → Prop
  | missing (absent : a = none) : AwaitedIfAny read a none []
  | awaited {met : Option (Option α)} {values : List Tree}
      (h : Awaited (asOptional read) a met values) : AwaitedIfAny read a met values

theorem AwaitedIfAny.take {α : Type} {read : Tree → Except Fault α} {a : Option α}
    {met : Option (Option α)} {value : Tree} {values : List Tree}
    (h : AwaitedIfAny read a met (value :: values)) :
    met = none ∧ asOptional read value = .ok a ∧ values = [] := by
  cases h with
  | awaited h => exact h.take

/-- What a draft takes of the members of an object: each field takes its values, one of them at a
time and without touching the other fields, and other members are passed over. -/
structure Form {σ : Type} (put : σ → String → Tree → Except Fault σ) (ι : Type) where
  name : ι → String
  /-- Where a field stands before the values that are to come. -/
  Stands : ι → σ → List Tree → Prop
  takes : ∀ {i d value values}, Stands i d (value :: values) →
    ∃ d', put d (name i) value = .ok d' ∧ Stands i d' values ∧
      ∀ j ≠ i, ∀ others, Stands j d others → Stands j d' others
  passes : ∀ {key} d value, (∀ i, name i ≠ key) → value.isWhole = true → put d key value = .ok d
  distinct : Function.Injective name

theorem Form.fill {σ ι : Type} {put : σ → String → Tree → Except Fault σ} (form : Form put ι)
    {members : List (Option String × Tree)} (keyed : ∀ member ∈ members, member.1.isSome = true)
    (whole : haveWholeValues members = true) {d : σ}
    (stands : ∀ i, form.Stands i d (named (form.name i) members)) :
    ∃ d', fillDraft put d members = .ok d' ∧ ∀ i, form.Stands i d' [] := by
  induction members generalizing d with
  | nil => exact ⟨d, rfl, stands⟩
  | cons member members ih =>
    obtain ⟨key | key, value⟩ := member
    · cases keyed _ List.mem_cons_self
    obtain ⟨first, whole⟩ := Bool.and_eq_true_iff.mp whole
    obtain ⟨-, keyed⟩ := List.forall_mem_cons.mp keyed
    simp only [named_cons, Option.some.injEq] at stands
    rw [fillDraft]
    have rest {d : σ} := @ih keyed whole d
    by_cases known : ∃ i, form.name i = key
    · obtain ⟨i, rfl⟩ := known
      obtain ⟨d', taken, here, others⟩ := form.takes (by simpa using stands i)
      rw [taken]
      refine rest fun j => ?_
      by_cases same : j = i
      · exact same ▸ here
      · have differs : form.name i ≠ form.name j := fun eq => same (form.distinct eq).symm
        exact others j same _ (by simpa [differs] using stands j)
    · have unknown : ∀ i, form.name i ≠ key := not_exists.mp known
      rw [form.passes d value unknown first]
      exact rest fun i => by simpa [(unknown i).symm] using stands i

theorem isWhole_of_named {name : String} {members : List (Option String × Tree)} {value : Tree}
    (whole : haveWholeValues members = true) (mem : value ∈ named name members) :
    value.isWhole = true := by
  induction members with
  | nil => cases mem
  | cons member members ih =>
    obtain ⟨key, first⟩ := member
    obtain ⟨firstWhole, whole⟩ := Bool.and_eq_true_iff.mp whole
    rw [named_cons] at mem
    split at mem
    · rcases List.mem_cons.mp mem with rfl | mem
      · exact firstWhole
      · exact ih whole mem
    · exact ih whole mem

theorem skip_of_isWhole {t : Tree} (whole : t.isWhole = true) : t.skip = .ok () := by
  rw [skip, if_pos whole]

end Json.Tree

open Json.Tree (named MayDescribe Awaited AwaitedIfAny Form)

/-! ## Job keys -/

namespace JobKey

/-- What a job key may look like: an object with its three fields among others, or an array. -/
inductive Describes : Tree → JobKey → Prop
  | object {members : List (Option String × Tree)} {k : JobKey}
      (keyed : ∀ member ∈ members, member.1.isSome = true)
      (role : named "role" members = [.text (some k.role)])
      (environment : named "environment" members = [.text (some k.environment)])
      (name : named "name" members = [.text (some k.name)]) : Describes (.object members .closed) k
  | array (k : JobKey) :
      Describes (.array [.text (some k.role), .text (some k.environment), .text (some k.name)] true)
        k

inductive Field where
  | role
  | environment
  | name
  deriving DecidableEq

namespace Field

def label : Field → String
  | role => "role"
  | environment => "environment"
  | name => "name"

def Stands (k : JobKey) : Field → Draft → List Tree → Prop
  | role, d, values => Awaited Tree.asText k.role d.role values
  | environment, d, values => Awaited Tree.asText k.environment d.environment values
  | name, d, values => Awaited Tree.asText k.name d.name values

/-- Takes a field of the key into a draft. -/
def fill (k : JobKey) (d : Draft) : Field → Draft
  | role => { d with role := some k.role }
  | environment => { d with environment := some k.environment }
  | name => { d with name := some k.name }

end Field

def form (k : JobKey) : Form Draft.put Field where
  name := Field.label
  Stands := Field.Stands k
  takes {i d value values} h := by
    refine ⟨i.fill k d, ?_, ?_, fun j other others h => ?_⟩
    · cases i <;> obtain ⟨unmet, reads, -⟩ := Awaited.take h <;>
        simp [Field.label, Field.fill, Draft.put, unmet, reads, Except.map]
    · cases i <;> obtain ⟨-, -, rfl⟩ := Awaited.take h <;> exact .met
    · cases i <;> cases j <;> first | exact h | exact absurd rfl other
  passes {key} d value unknown whole := by
    have role := unknown .role
    have environment := unknown .environment
    have name := unknown .name
    simp only [Field.label] at role environment name
    unfold Draft.put
    split
    · exact absurd rfl role
    · exact absurd rfl environment
    · exact absurd rfl name
    · rw [Tree.skip_of_isWhole whole]
      rfl
  distinct i j eq := by cases i <;> cases j <;> simp_all [Field.label]

theorem ofTree_of_describes {t : Tree} {k : JobKey} (h : Describes t k) (whole : t.isWhole = true) :
    ofTree .text t = .ok k := by
  cases h with
  | array => rfl
  | @object members _ keyed role environment name =>
    have wholeValues : Tree.haveWholeValues members = true := by simpa [Tree.isWhole] using whole
    have stands (i : Field) : i.Stands k {} (named i.label members) := by
      cases i with
      | role => rw [Field.label, role]; exact .ahead rfl
      | environment => rw [Field.label, environment]; exact .ahead rfl
      | name => rw [Field.label, name]; exact .ahead rfl
    obtain ⟨d, filled, stands⟩ := (form k).fill keyed wholeValues stands
    have role := Awaited.eq_some (stands .role)
    have environment := Awaited.eq_some (stands .environment)
    have name := Awaited.eq_some (stands .name)
    show (do (← Tree.fromMembers Draft.put {} members .closed).complete) = _
    rw [Tree.fromMembers, filled]
    show d.complete = _
    rw [Draft.complete, role, environment, name]

end JobKey

/-! ## Records -/

namespace Record

/-- What the members of an object may look like for it to be a record: the fields that it must have
are there once, the others once or not at all or null, and there may be members of other names. -/
structure Describes (members : List (Option String × Tree)) (r : Record) : Prop where
  keyed : ∀ member ∈ members, member.1.isSome = true
  taskId : named "task_id" members = [.text (some r.taskId)]
  role : named "role" members = [.text (some r.role)]
  jobName : named "job_name" members = [.text (some r.jobName)]
  environment : MayDescribe (fun value e => value = .text (some e)) (named "environment" members)
    r.environment
  jobKey : MayDescribe JobKey.Describes (named "job_key" members) r.jobKey
  status : named "status" members = [.text (some r.status.label)]
  updatedAt : named "updated_at" members = [.number (.ofNat r.updatedAt.toNat)]

inductive Field where
  | taskId
  | role
  | jobName
  | environment
  | jobKey
  | status
  | updatedAt
  deriving DecidableEq

namespace Field

def label : Field → String
  | taskId => "task_id"
  | role => "role"
  | jobName => "job_name"
  | environment => "environment"
  | jobKey => "job_key"
  | status => "status"
  | updatedAt => "updated_at"

def Stands (r : Record) : Field → Draft → List Tree → Prop
  | taskId, d, values => Awaited Tree.asText r.taskId d.taskId values
  | role, d, values => Awaited Tree.asText r.role d.role values
  | jobName, d, values => Awaited Tree.asText r.jobName d.jobName values
  | environment, d, values => AwaitedIfAny Tree.asText r.environment d.environment values
  | jobKey, d, values => AwaitedIfAny (JobKey.ofTree .text) r.jobKey d.jobKey values
  | status, d, values =>
    Awaited (Tree.asVariant .text TaskStatus.named) r.status d.status values
  | updatedAt, d, values => Awaited Tree.asWord r.updatedAt d.updatedAt values

/-- Takes a field of the record into a draft. -/
def fill (r : Record) (d : Draft) : Field → Draft
  | taskId => { d with taskId := some r.taskId }
  | role => { d with role := some r.role }
  | jobName => { d with jobName := some r.jobName }
  | environment => { d with environment := some r.environment }
  | jobKey => { d with jobKey := some r.jobKey }
  | status => { d with status := some r.status }
  | updatedAt => { d with updatedAt := some r.updatedAt }

variable {r : Record} {d : Draft} {value : Tree} {values : List Tree}

theorem put_of_stands (i : Field) (h : i.Stands r d (value :: values)) :
    Draft.put .text d i.label value = .ok (i.fill r d) ∧ values = [] := by
  cases i with
  | environment | jobKey =>
    obtain ⟨unmet, reads, none⟩ := AwaitedIfAny.take h
    exact ⟨by simp [label, fill, Draft.put, unmet, reads, Except.map], none⟩
  | _ =>
    obtain ⟨unmet, reads, none⟩ := Awaited.take h
    exact ⟨by simp [label, fill, Draft.put, unmet, reads, Except.map], none⟩

theorem stands_fill (i : Field) : i.Stands r (i.fill r d) [] := by
  cases i with
  | environment | jobKey => exact .awaited .met
  | _ => exact .met

theorem stands_fill_of_ne {i j : Field} (other : j ≠ i) (h : j.Stands r d values) :
    j.Stands r (i.fill r d) values := by
  cases i <;> cases j <;> first | exact h | exact absurd rfl other

theorem put_of_unknown {key : String} (unknown : ∀ i : Field, i.label ≠ key)
    (whole : value.isWhole = true) : Draft.put .text d key value = .ok d := by
  unfold Draft.put
  split
  · exact absurd rfl (unknown .taskId)
  · exact absurd rfl (unknown .role)
  · exact absurd rfl (unknown .jobName)
  · exact absurd rfl (unknown .environment)
  · exact absurd rfl (unknown .jobKey)
  · exact absurd rfl (unknown .status)
  · exact absurd rfl (unknown .updatedAt)
  · rw [Tree.skip_of_isWhole whole]
    rfl

end Field

def form (r : Record) : Form (Draft.put .text) Field where
  name := Field.label
  Stands := Field.Stands r
  takes {i d value values} h := by
    obtain ⟨taken, rfl⟩ := i.put_of_stands h
    exact ⟨i.fill r d, taken, i.stands_fill, fun j other _ h => Field.stands_fill_of_ne other h⟩
  passes _ _ unknown whole := Field.put_of_unknown unknown whole
  distinct i j eq := by cases i <;> cases j <;> simp_all [Field.label]

/-- At the end a field that may be missing is met or absent. -/
theorem join_of_awaitedIfAny {α : Type} {read : Tree → Except Fault α} {a : Option α}
    {met : Option (Option α)} (h : AwaitedIfAny read a met []) : met.join = a := by
  cases h with
  | missing absent => exact absent.symm
  | awaited h =>
    rw [h.eq_some]
    rfl

theorem awaitedIfAny_of_mayDescribe {α : Type} {describes : Tree → α → Prop}
    {read : Tree → Except Fault α} {values : List Tree} {a : Option α}
    (h : MayDescribe describes values a)
    (reads : ∀ value ∈ values, ∀ a, describes value a → value.asOptional read = .ok (some a)) :
    AwaitedIfAny read a none values := by
  cases a with
  | none =>
    rcases h with rfl | rfl
    · exact .missing rfl
    · exact .awaited (.ahead rfl)
  | some a =>
    obtain ⟨value, rfl, describes⟩ := h
    exact .awaited (.ahead (reads value List.mem_cons_self a describes))

theorem Describes.stands {members : List (Option String × Tree)} {r : Record}
    (h : Describes members r) (whole : Tree.haveWholeValues members = true) (i : Field) :
    i.Stands r {} (named i.label members) := by
  cases i with
  | taskId => rw [Field.label, h.taskId]; exact .ahead rfl
  | role => rw [Field.label, h.role]; exact .ahead rfl
  | jobName => rw [Field.label, h.jobName]; exact .ahead rfl
  | environment =>
    refine awaitedIfAny_of_mayDescribe h.environment fun value _ e eq => ?_
    rw [eq]
    rfl
  | jobKey =>
    refine awaitedIfAny_of_mayDescribe h.jobKey fun value mem k describes => ?_
    have read := JobKey.ofTree_of_describes describes (Tree.isWhole_of_named whole mem)
    cases describes <;> rw [Tree.asOptional, read] <;> first | rfl | (intro eq; cases eq)
  | status => rw [Field.label, h.status]; exact .ahead (r.status.asVariant_label .text)
  | updatedAt => rw [Field.label, h.updatedAt]; exact .ahead (Tree.asWord_nat r.updatedAt)

theorem ofTree_of_describes {members : List (Option String × Tree)} {r : Record}
    (h : Describes members r) (whole : Tree.haveWholeValues members = true) :
    ofTree .text (.object members .closed) = .ok r := by
  obtain ⟨d, filled, stands⟩ := r.form.fill h.keyed whole (h.stands whole)
  have taskId := Awaited.eq_some (stands .taskId)
  have role := Awaited.eq_some (stands .role)
  have jobName := Awaited.eq_some (stands .jobName)
  have environment := join_of_awaitedIfAny (stands .environment)
  have jobKey := join_of_awaitedIfAny (stands .jobKey)
  have status := Awaited.eq_some (stands .status)
  have updatedAt := Awaited.eq_some (stands .updatedAt)
  show (do (← Tree.fromMembers (Draft.put .text) {} members .closed).complete) = _
  rw [Tree.fromMembers, filled]
  show d.complete = _
  rw [Draft.complete, taskId, role, jobName, environment, jobKey, status, updatedAt]
  rfl

/-- Describing does not depend on the order of members, nor on members of other names. -/
theorem Describes.of_named_eq {members members' : List (Option String × Tree)} {r : Record}
    (h : Describes members r) (keyed : ∀ member ∈ members', member.1.isSome = true)
    (same : ∀ i : Field, named i.label members' = named i.label members) :
    Describes members' r where
  keyed
  taskId := (same .taskId).trans h.taskId
  role := (same .role).trans h.role
  jobName := (same .jobName).trans h.jobName
  environment := same .environment ▸ h.environment
  jobKey := same .jobKey ▸ h.jobKey
  status := (same .status).trans h.status
  updatedAt := (same .updatedAt).trans h.updatedAt

/-- Every document of an object that describes a record is read as the record. It makes no
difference how the document is laid out, in which order the members come, and what the members of
other names are. -/
theorem decode_of_describes {s : String} {members : List (Option String × Tree)} {r : Record}
    (document : (Tree.object members .closed).Writes s.toList) (describes : Describes members r) :
    decode s.toUTF8.toList = .ok r ∧
      ∀ (s' : String) (members' : List (Option String × Tree)),
        (Tree.object members' .closed).Writes s'.toList →
        (∀ member ∈ members', member.1.isSome = true) →
        (∀ i : Field, named i.label members' = named i.label members) →
        decode s'.toUTF8.toList = decode s.toUTF8.toList := by
  have reads {s : String} {members : List (Option String × Tree)}
      (document : (Tree.object members .closed).Writes s.toList)
      (describes : Describes members r) : decode s.toUTF8.toList = .ok r := by
    have whole : Tree.haveWholeValues members = true := by simpa [Tree.isWhole] using document.1
    rw [decode, Tree.ofBytes_of_writes document]
    show (do
      let record ← ofTree .text (.object members .closed)
      if false then throw Fault.malformed
      return record) = _
    rw [ofTree_of_describes describes whole]
    rfl
  refine ⟨reads document describes, fun s' members' document' keyed same => ?_⟩
  rw [reads document describes, reads document' (describes.of_named_eq keyed same)]

/-- Members of a record in no order, of which one is not known. -/
def strayMembers : List (String × Json) :=
  [("note", .array [.object [], .bool true, .nat 3]), ("updated_at", .nat 17),
    ("environment", .null), ("job_name", .text "api"), ("task_id", .text "t-1"),
    ("role", .text "www")]

/-- The members behind a status with an escaped letter, and with blanks. -/
def stray : String :=
  "\x7b\"status\":\"l\\u006Fst\" , \"note\" : [ \x7b \x7d , true , 3 ] , \"updated_at\" : 17" ++
    " , \"environment\" : null , \"job_name\" : \"api\" , \"task_id\" : \"t-1\"" ++
    " , \"role\" : \"www\" \x7d"

/-- The letter that is escaped is the one that is read. -/
theorem writesText_lost : Json.WritesText "lost" "\"l\\u006Fst\"".toList := by
  have zero : Json.IsHexDigit '0' 0 := ⟨by decide, .inl rfl⟩
  have six : Json.IsHexDigit '6' 6 := ⟨by decide, .inl rfl⟩
  have fifteen : Json.IsHexDigit 'F' 15 := ⟨by decide, .inr rfl⟩
  have o : Json.IsUnit 'o'.toNat ['0', '0', '6', 'F'] := .digits zero zero six fifteen
  refine ⟨[['l'], ['\\', 'u', '0', '0', '6', 'F'], ['s'], ['t']], ?_, by decide⟩
  exact .cons (.plain (by decide) (by decide) (by decide)) <| .cons (.unit o) <|
    .cons (.plain (by decide) (by decide) (by decide)) <|
    .cons (.plain (by decide) (by decide) (by decide)) .nil

/-- The order of the members, the blanks and the member that is not known make no difference. -/
theorem decode_of_describes_stray :
    ∃ members r, (Tree.object members .closed).Writes stray.toList ∧ Describes members r ∧
      decode stray.toUTF8.toList = .ok r ∧
      r = ⟨"t-1", "www", "api", none, none, .lost, 17⟩ := by
  have others : Json.AreSpelled (.comma :: Json.memberTokens strayMembers ++ [.closeObject]) := by
    refine List.forall_mem_cons.mpr ⟨.fixed rfl, List.forall_mem_append.mpr
      ⟨Json.areSpelled_memberTokens strayMembers fun n mem => ?_,
        List.forall_mem_singleton.mpr (.fixed rfl)⟩⟩
    simp [strayMembers, Json.memberTokens, Json.tokens, Json.itemTokens, Json.nat] at mem
    rcases mem with rfl | rfl <;> exact ⟨_, rfl⟩
  have nothing : Json.AreBlank [] := by decide
  have blank : Json.AreBlank [' '] := by decide
  have layout := Json.Layout.cons nothing (.fixed (t := .openObject) rfl) <|
    .cons nothing (.text (Json.writesText_spellText "status")) <|
    .cons nothing (.fixed (t := .colon) rfl) <|
    .cons nothing (.text writesText_lost) (others.layout blank)
  have document : (Tree.object ((some "status", .text (some "lost")) ::
      Json.memberTrees strayMembers) .closed).Writes stray.toList := by
    refine ⟨by decide, Eq.mp (congrArg (Json.Layout _) ?_) layout⟩
    rw [← String.ofList_inj, String.ofList_toList]
    decide +kernel
  have describes : Describes ((some "status", .text (some "lost")) ::
      Json.memberTrees strayMembers) ⟨"t-1", "www", "api", none, none, .lost, 17⟩ :=
    ⟨by decide, rfl, rfl, rfl, .inr rfl, .inl rfl, rfl, rfl⟩
  exact ⟨_, _, document, describes, (decode_of_describes document describes).1, rfl⟩

end Record

end Tenure
