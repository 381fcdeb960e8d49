import Tenure.Proofs.Discipline

/-!
# What a caller is told

An operation that stands for one state begins with a request of it. If that request is refused,
the operation requests nothing else, and its caller is told the refusal, so it learns the state
that the replica was in. If it is granted, the work of the move may request more.
-/
namespace Tenure.Lifecycle

variable {α : Type}

/-- A request of a state, and what came of it. -/
abbrev Request := State × Except IllegalMove Edge

/-- The state that an operation stands for. -/
def Operation.asks? : Operation → Option State
  | prepare => some .preparingStorage
  | lead _ => some .leaderAwaitingRegistration
  | registered _ => some .registeredLeader
  | request target => some target
  | stepDown _ | runOut _ => none

namespace Request

/-- The requests of a task, in their order. -/
def discipline : Discipline (List Request) where
  start := []
  after r e := r ++ e.request?.toList
  allows _ _ := True

/-- The first request was granted. -/
def Granted (target : State) (r : List Request) : Prop :=
  ∃ edge rest, r = (target, .ok edge) :: rest

/-- The only request was refused, and the caller is told so. -/
def Refused (target : State) (x : Option Outcome) (r : List Request) : Prop :=
  ∃ refusal, r = [(target, .error refusal)] ∧
    ∀ outcome, x = some outcome → outcome = .error (.illegalMove refusal)

def Heard (target : State) (x : Option Outcome) (r : List Request) : Prop :=
  Granted target r ∨ Refused target x r

/-- Once the first request is granted, whatever follows leaves it so. -/
theorem granted_always {target : State} {r : List Request} (granted : Granted target r)
    (p : Program α) : discipline.Abides (fun _ r => Granted target r) r p := by
  refine .always (fun r e granted => ?_) (fun _ _ _ => trivial) granted p
  obtain ⟨edge, rest, rfl⟩ := granted
  exact ⟨edge, rest ++ e.request?.toList, rfl⟩

/-- The requests of a task are those among its acts. -/
theorem eq_of_walk {acts : List Act} {r : List Request} (walk : discipline.Walk acts r) :
    r = acts.filterMap Act.request? := by
  induction walk with
  | start => rfl
  | step walk allowed ih => rw [filterMap_append_singleton, ← ih]; rfl

end Request

open Request

/-! ## Programs -/

theorem heard_request (target : State) :
    Request.discipline.Abides (Heard target) [] (request target) := by
  refine .touch fun x hx => ?_
  rcases Access.gives_install hx with ⟨source, rfl⟩ | ⟨source, -, rfl⟩
  · exact (granted_always ⟨_, [], rfl⟩ _).mono fun _ _ => .inl
  · exact .inr ⟨_, rfl, fun _ eq => (Option.some.inj eq).symm⟩

/-- To give up a grant takes no request. -/
theorem unasked_releaseIfAny (owed : Option Grant) (r : List Request) :
    Request.discipline.Abides (fun _ r' => r' = r) r (releaseIfAny owed) := by
  have answered (c : Call) (x : Option c.Answer) :
      Request.discipline.after (Request.discipline.after r (.called c)) (.answered c x) = r := by
    simp [Request.discipline, Act.request?]
  cases owed with
  | none => rfl
  | some grant =>
    refine .ask trivial (answered ..) fun x => ?_
    cases x <;> exact answered ..

theorem heard_takeUp (grant : Grant) (previous : Option Grant) :
    Request.discipline.Abides (Heard .leaderAwaitingRegistration) [] (takeUp grant previous) := by
  refine .bind ((heard_request .leaderAwaitingRegistration).mono fun x r heard => ?_)
  rcases heard with granted | ⟨refusal, rfl, heard⟩
  · cases x with
    | none => exact .inl granted
    | some outcome => exact (granted_always granted _).mono fun _ _ => .inl
  · -- Nothing that follows is a request, and a panic tells nobody anything.
    have alone : Heard .leaderAwaitingRegistration none
        [(.leaderAwaitingRegistration, .error refusal)] := .inr ⟨refusal, rfl, nofun⟩
    cases x with
    | none => exact alone
    | some outcome =>
      obtain rfl := heard _ rfl
      refine .log (.ask trivial alone fun _ => .touch fun owed _ => ?_)
      refine .bind ((unasked_releaseIfAny owed _).mono fun y r same => ?_)
      subst same
      cases y with
      | none => exact alone
      | some => exact .inr ⟨refusal, rfl, fun _ eq => (Option.some.inj eq).symm⟩

theorem heard_lead (grant : Grant) :
    Request.discipline.Abides (Heard .leaderAwaitingRegistration) [] (lead grant) := by
  refine .withLock fun _ => .touch fun previous _ => (heard_takeUp grant previous).mono ?_
  rintro x r heard _
  rw [show Request.discipline.after r (.accessed (.unlock .grants) ()) = r from List.append_nil r]
  exact heard

/-- Whoever asks for a state is granted it, or is told the refusal. -/
theorem Operation.heard : Request.discipline.Governs fun operation x r =>
    ∀ target, operation.asks? = some target → Heard target x r := by
  intro operation
  have unasked {p : Program Outcome} (none : operation.asks? = none) :
      Request.discipline.Abides
        (fun x r => ∀ target, operation.asks? = some target → Heard target x r) [] p :=
    (Discipline.Abides.always (P := fun _ => True) (fun _ _ _ => trivial) (fun _ _ _ => trivial)
      trivial p).mono fun _ _ _ _ some => by simp [none] at some
  have asked {target : State} {p : Program Outcome} (asks : operation.asks? = some target)
      (heard : Request.discipline.Abides (Heard target) [] p) :
      Request.discipline.Abides
        (fun x r => ∀ target, operation.asks? = some target → Heard target x r) [] p :=
    heard.mono fun _ _ heard _ eq => Option.some.inj (asks.symm.trans eq) ▸ heard
  cases operation with
  | prepare => exact asked rfl (heard_request .preparingStorage)
  | lead grant => exact asked rfl (heard_lead grant)
  | registered frameworkId => exact asked rfl (.log (heard_request .registeredLeader))
  | request target => exact asked rfl (heard_request target)
  | stepDown status => exact unasked rfl
  | runOut timer => exact unasked rfl

end Tenure.Lifecycle
