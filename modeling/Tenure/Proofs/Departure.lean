import Mathlib.Data.List.Induction
import Tenure.Standalone.Control

/-!
# Leaving while others advertise

Several callers may use a handle at once, and each takes the steps of its call when it likes. A
replica that has left stays so, and whoever wants it advertised from then on is refused. But an
advertisement looks once only whether the replica has left. If it has looked, and has not yet set the
flag, when the replica is withdrawn, then the flag is set afterwards, and nothing takes it back. This
is the only way for a replica that has left to be advertised.
-/
namespace Tenure.Standalone.Control

/-! ## Several callers -/

/-- What a caller wants of a handle. -/
inductive Request where
  | advertise
  | leave

def Request.call : Request → Call
  | advertise => .advertise
  | leave => .leave

def Call.isDone : Call → Bool
  | done _ => true
  | _ => false

/-- A handle, and the calls that were made on it with how far each has come. -/
structure Traffic where
  control : Control
  calls : List (Request × Call) := []

/-- A caller begins a call, or takes the next step of the one it has begun. -/
inductive Move where
  | begin (request : Request)
  | advance (i : Nat)

namespace Traffic

def step? (t : Traffic) : Move → Option Traffic
  | .begin request => some { t with calls := t.calls ++ [(request, request.call)] }
  | .advance i =>
    match t.calls[i]? with
    | some (request, call) =>
      if call.isDone then none
      else some ⟨(t.control.step call).2, t.calls.set i (request, (t.control.step call).1)⟩
    | none => none

def follow? (t : Traffic) : List Move → Option Traffic
  | [] => some t
  | move :: rest => (t.step? move).bind fun t => t.follow? rest

/-- No call is under way. -/
def AtRest (t : Traffic) : Prop := ∀ entry ∈ t.calls, entry.2.isDone = true

/-- Some caller has been told that the replica has left. -/
def HasLeft (t : Traffic) : Prop := ∃ result, (.leave, .done result) ∈ t.calls

/-- When the replica is withdrawn, an advertisement has found that it had not left, and has yet to
set the flag. -/
def Overtaken (start : Traffic) (moves : List Move) : Prop :=
  ∃ before i after t, moves = before ++ .advance i :: after ∧ start.follow? before = some t ∧
    t.calls[i]? = some (.leave, .withdraw) ∧ (.advertise, .publish) ∈ t.calls

/-! ## What one step does -/

variable {start t t' : Traffic} {moves : List Move} {move : Move}

theorem step?_cases (step : t.step? move = some t') :
    (∃ request, move = .begin request ∧
      t' = { t with calls := t.calls ++ [(request, request.call)] }) ∨
    ∃ i request call, move = .advance i ∧ t.calls[i]? = some (request, call) ∧
      call.isDone = false ∧
      t' = ⟨(t.control.step call).2, t.calls.set i (request, (t.control.step call).1)⟩ := by
  cases move with
  | begin request => exact .inl ⟨request, rfl, (Option.some.inj step).symm⟩
  | advance i =>
    rw [step?] at step
    split at step
    · next request call found =>
      split at step
      · cases step
      · next going =>
        exact .inr ⟨i, request, call, rfl, found, by simpa using going,
          (Option.some.inj step).symm⟩
    · cases step

theorem follow?_concat :
    start.follow? (moves ++ [move]) = (start.follow? moves).bind fun t => t.step? move := by
  induction moves generalizing start with
  | nil => exact Option.bind_fun_some _
  | cons first rest ih =>
    rw [List.cons_append, follow?, follow?, Option.bind_assoc]
    exact congrArg _ (funext fun t => ih)

theorem overtaken_concat (run : start.follow? moves = some t) :
    Overtaken start (moves ++ [move]) ↔ Overtaken start moves ∨
      ∃ i, move = .advance i ∧ t.calls[i]? = some (.leave, .withdraw) ∧
        (.advertise, .publish) ∈ t.calls := by
  constructor
  · rintro ⟨before, i, after, u, split, earlier, found⟩
    rcases List.eq_nil_or_concat after with rfl | ⟨after, last, rfl⟩
    · obtain ⟨rfl, same⟩ := List.append_inj' split rfl
      rw [run] at earlier
      cases earlier
      exact .inr ⟨i, List.singleton_inj.mp same, found⟩
    · rw [List.concat_eq_append, ← List.cons_append, ← List.append_assoc] at split
      obtain ⟨rfl, -⟩ := List.append_inj' split rfl
      exact .inl ⟨before, i, after, u, rfl, earlier, found⟩
  · rintro (⟨before, i, after, u, rfl, found⟩ | ⟨i, rfl, found⟩)
    · exact ⟨before, i, after ++ [move], u, by simp, found⟩
    · exact ⟨moves, i, [], t, rfl, run, found⟩

theorem overtaken_advance {i : Nat} {entry : Request × Call} (run : start.follow? moves = some t)
    (found : t.calls[i]? = some entry) :
    Overtaken start (moves ++ [.advance i]) ↔ Overtaken start moves ∨
      entry = (.leave, .withdraw) ∧ (.advertise, .publish) ∈ t.calls := by
  simp [overtaken_concat run, found]

/-! ## Calls in a list -/

section Lists

variable {α : Type} {l : List α} {i j : Nat} {a b x : α}

theorem eq_or_of_getElem?_concat (found : (l ++ [a])[j]? = some x) :
    l[j]? = some x ∨ j = l.length ∧ x = a := by
  grind

theorem eq_or_of_getElem?_set (found : (l.set i a)[j]? = some x) :
    j = i ∧ x = a ∨ j ≠ i ∧ l[j]? = some x := by
  grind

/-- What is neither taken away nor put in its place is there as before. -/
theorem mem_set_iff (found : l[i]? = some a) (old : x ≠ a) (new : x ≠ b) :
    x ∈ l.set i b ↔ x ∈ l := by
  constructor
  · intro mem
    exact (List.mem_or_eq_of_mem_set mem).resolve_right new
  · intro mem
    obtain ⟨j, there⟩ := List.mem_iff_getElem?.mp mem
    have other : i ≠ j := by
      rintro rfl
      exact old (Option.some.inj (there.symm.trans found))
    exact List.mem_iff_getElem?.mpr ⟨j, by rw [List.getElem?_set_ne other, there]⟩

end Lists

/-! ## How far the replica is from having left -/

/-- Nobody has left; the call at `i` has, and has still to clear the flag; it has cleared it. -/
inductive Stage where
  | member
  | leaving (i : Nat)
  | gone

/-- How far the call at `j` may have come. -/
def Stage.Allows (stage : Stage) (j : Nat) : Request → Call → Prop
  | .advertise, .advertise | .advertise, .publish | .advertise, .done (.ok ()) => True
  | .advertise, .done (.error _) => stage ≠ member
  | .leave, .leave => True
  | .leave, .withdraw => stage = leaving j
  | .leave, .done _ => stage ≠ member
  | _, _ => False

/-- Where a call may be, it may still be when the replica has left, and when another call has cleared
the flag. -/
theorem Stage.Allows.onward {stage stage' : Stage} {j : Nat} {request : Request} {call : Call}
    (allowed : stage.Allows j request call) (left : stage ≠ .member → stage' ≠ .member)
    (leaving : stage = .leaving j → stage' = .leaving j) : stage'.Allows j request call := by
  unfold Allows at allowed ⊢
  split at allowed
  all_goals first | trivial | exact left allowed | exact leaving allowed

/-- What holds of the traffic on a handle after some moves. -/
structure Sound (start : Traffic) (moves : List Move) (stage : Stage) (t : Traffic) : Prop where
  left : t.control.left = true ↔ stage ≠ .member
  allowed : ∀ j request call, t.calls[j]? = some (request, call) → stage.Allows j request call
  leaver : ∀ i, stage = .leaving i → t.calls[i]? = some (.leave, .withdraw)
  overtaken : Overtaken start moves ↔
    stage = .gone ∧ (t.control.advertised = true ∨ (.advertise, .publish) ∈ t.calls)

namespace Sound

variable {stage stage' : Stage} {i : Nat} {request : Request} {call call' : Call}

theorem fresh (endpoint : String) : Sound ⟨{ endpoint }, []⟩ [] .member ⟨{ endpoint }, []⟩ where
  left := by simp
  allowed := nofun
  leaver := nofun
  overtaken := by
    refine ⟨?_, nofun⟩
    rintro ⟨before, i, after, t, split, -⟩
    simp at split

theorem begin (sound : Sound start moves stage t) (run : start.follow? moves = some t)
    (request : Request) : Sound start (moves ++ [.begin request]) stage
      { t with calls := t.calls ++ [(request, request.call)] } where
  left := sound.left
  allowed j request' call found := by
    rcases eq_or_of_getElem?_concat found with old | ⟨-, new⟩
    · exact sound.allowed j request' call old
    · cases new
      cases request <;> trivial
  leaver i leaving := by
    have found := sound.leaver i leaving
    rwa [List.getElem?_append_left (List.getElem?_eq_some_iff.mp found).1]
  overtaken := by
    have others : (.advertise, .publish) ≠ (request, request.call) := by cases request <;> nofun
    simp [overtaken_concat run, sound.overtaken, others]

/-- The calls are where they may be if the one that took a step is, and no other is to clear the
flag. -/
theorem allowed_set (sound : Sound start moves stage t) (onward : stage ≠ .member → stage' ≠ .member)
    (others : ∀ j, j ≠ i → stage = .leaving j → stage' = .leaving j)
    (own : stage'.Allows i request call') (j : Nat) (request' : Request) (call : Call)
    (found : (t.calls.set i (request, call'))[j]? = some (request', call)) :
    stage'.Allows j request' call := by
  rcases eq_or_of_getElem?_set found with ⟨rfl, new⟩ | ⟨other, old⟩
  · cases new
    exact own
  · exact (sound.allowed j request' call old).onward onward (others j other)

/-- Another call than the one that is to clear the flag leaves that where it is. -/
theorem leaver_set (sound : Sound start moves stage t)
    (found : t.calls[i]? = some (request, call)) (other : (request, call) ≠ (.leave, .withdraw))
    (k : Nat) (leaving : stage = .leaving k) :
    (t.calls.set i (request, call'))[k]? = some (.leave, .withdraw) := by
  have there := sound.leaver k leaving
  rwa [List.getElem?_set_ne]
  rintro rfl
  exact other (Option.some.inj (found.symm.trans there))

/-- An advertisement looks whether the replica has left. -/
theorem look (sound : Sound start moves stage t) (run : start.follow? moves = some t)
    (found : t.calls[i]? = some (.advertise, .advertise)) :
    Sound start (moves ++ [.advance i]) stage
      ⟨t.control, t.calls.set i (.advertise,
        if t.control.left then .done (.error t.control.goneError) else .publish)⟩ where
  left := sound.left
  allowed := by
    refine sound.allowed_set id (fun j _ => id) ?_
    split
    · next left => exact sound.left.mp left
    · trivial
  leaver := sound.leaver_set found nofun
  overtaken := by
    rw [overtaken_advance run found, sound.overtaken]
    cases stage with
    | member | leaving => simp
    | gone =>
      have left : t.control.left = true := sound.left.mpr nofun
      simp [left, mem_set_iff found]

/-- An advertisement sets the flag. -/
theorem publish (sound : Sound start moves stage t) (run : start.follow? moves = some t)
    (found : t.calls[i]? = some (.advertise, .publish)) :
    Sound start (moves ++ [.advance i]) stage
      ⟨{ t.control with advertised := true }, t.calls.set i (.advertise, .done (.ok ()))⟩ where
  left := sound.left
  allowed := sound.allowed_set id (fun j _ => id) trivial
  leaver := sound.leaver_set found nofun
  overtaken := by
    have pending : (.advertise, .publish) ∈ t.calls := List.mem_of_getElem? found
    simp [overtaken_advance run found, sound.overtaken, pending]

/-- The first that leaves has the flag to clear, and whoever leaves later has nothing to do. -/
theorem leave (sound : Sound start moves stage t) (run : start.follow? moves = some t)
    (found : t.calls[i]? = some (.leave, .leave)) :
    ∃ stage', Sound start (moves ++ [.advance i]) stage'
      ⟨{ t.control with left := true }, t.calls.set i (.leave,
        if t.control.left then .done (.ok ()) else .withdraw)⟩ := by
  cases left : t.control.left with
  | false =>
    obtain rfl : stage = .member := by
      by_contra away
      exact absurd (sound.left.mpr away) (by simp [left])
    refine ⟨.leaving i, by simp, ?_, ?_, ?_⟩
    · exact sound.allowed_set (fun away => absurd rfl away) nofun rfl
    · rintro _ ⟨⟩
      exact List.getElem?_set_self (List.getElem?_eq_some_iff.mp found).1
    · simp [overtaken_advance run found, sound.overtaken]
  | true =>
    have away := sound.left.mp left
    refine ⟨stage, by simp [away], ?_, sound.leaver_set found nofun, ?_⟩
    · exact sound.allowed_set id (fun j _ => id) away
    · simp [overtaken_advance run found, sound.overtaken, mem_set_iff found]

/-- Who has left clears the flag. An advertisement that has still to set it overtakes that. -/
theorem withdraw (sound : Sound start moves stage t) (run : start.follow? moves = some t)
    (found : t.calls[i]? = some (.leave, .withdraw)) :
    Sound start (moves ++ [.advance i]) .gone
      ⟨{ t.control with advertised := false }, t.calls.set i (.leave, .done (.ok ()))⟩ := by
  obtain rfl : stage = .leaving i := sound.allowed i .leave .withdraw found
  refine ⟨?_, ?_, nofun, ?_⟩
  · have left : t.control.left = true := sound.left.mpr nofun
    simp [left]
  · refine sound.allowed_set (fun _ => nofun) (fun j other same => ?_) nofun
    cases same
    exact absurd rfl other
  · simp [overtaken_advance run found, sound.overtaken, mem_set_iff found]

theorem step (sound : Sound start moves stage t) (run : start.follow? moves = some t)
    (step : t.step? move = some t') : ∃ stage', Sound start (moves ++ [move]) stage' t' := by
  rcases step?_cases step with ⟨request, rfl, rfl⟩ | ⟨i, request, call, rfl, found, going, rfl⟩
  · exact ⟨stage, sound.begin run request⟩
  · have allowed := sound.allowed i request call found
    cases request with
    | advertise =>
      cases call with
      | advertise => exact ⟨stage, sound.look run found⟩
      | publish => exact ⟨stage, sound.publish run found⟩
      | leave | withdraw => exact allowed.elim
      | done => cases going
    | leave =>
      cases call with
      | leave => exact sound.leave run found
      | withdraw => exact ⟨.gone, sound.withdraw run found⟩
      | advertise | publish => exact allowed.elim
      | done => cases going

end Sound

theorem exists_sound {endpoint : String} (run : follow? ⟨{ endpoint }, []⟩ moves = some t) :
    ∃ stage, Sound ⟨{ endpoint }, []⟩ moves stage t := by
  induction moves using List.reverseRecOn generalizing t with
  | nil =>
    cases run
    exact ⟨.member, .fresh endpoint⟩
  | append_singleton moves move ih =>
    rw [follow?_concat] at run
    obtain ⟨u, earlier, step⟩ := Option.bind_eq_some_iff.mp run
    obtain ⟨stage, sound⟩ := ih earlier
    exact sound.step earlier step

/-! ## After the replica has left -/

/-- Whoever began to advertise at `n` or later is refused, or has not looked yet. -/
structure Barred (n : Nat) (e : LeadershipError) (t : Traffic) : Prop where
  left : t.control.left = true
  error : t.control.goneError = e
  refused : ∀ j call, n ≤ j → t.calls[j]? = some (.advertise, call) →
    call = .done (.error e) ∨ call = .advertise

namespace Barred

variable {n : Nat} {e : LeadershipError}

theorem step (barred : Barred n e t) (step : t.step? move = some t') : Barred n e t' := by
  obtain ⟨left, error, refused⟩ := barred
  rcases step?_cases step with ⟨request, -, rfl⟩ | ⟨i, request, call, -, found, going, rfl⟩
  · refine ⟨left, error, fun j call late there => ?_⟩
    rcases eq_or_of_getElem?_concat there with old | ⟨-, new⟩
    · exact refused j call late old
    · cases request <;> cases new
      exact .inr rfl
  · refine ⟨?_, ?_, fun j call' late there => ?_⟩
    · cases call <;> simp [Control.step, left]
    · cases call <;> exact error
    · rcases eq_or_of_getElem?_set there with ⟨rfl, new⟩ | ⟨-, old⟩
      · cases new
        rcases refused j call late found with rfl | rfl
        · cases going
        · simp [Control.step, left, error]
      · exact refused j call' late old

theorem follow (barred : Barred n e t) (run : t.follow? moves = some t') : Barred n e t' := by
  induction moves generalizing t with
  | nil => exact Option.some.inj run ▸ barred
  | cons move rest ih =>
    obtain ⟨u, step, run⟩ := Option.bind_eq_some_iff.mp run
    exact ih (barred.step step) run

/-- Whoever has not looked yet is refused as soon as it does. -/
theorem refuses (barred : Barred n e t) {j : Nat}
    (waits : t.calls[j]? = some (.advertise, .advertise)) :
    ∃ t', t.step? (.advance j) = some t' ∧ t'.control = t.control ∧
      t'.calls[j]? = some (.advertise, .done (.error e)) := by
  refine ⟨⟨t.control, t.calls.set j (.advertise, .done (.error e))⟩, ?_, rfl, ?_⟩
  · simp [step?, waits, Call.isDone, Control.step, barred.left, barred.error]
  · exact List.getElem?_set_self (List.getElem?_eq_some_iff.mp waits).1

end Barred

/-- When no call is under way and the replica has left, it is marked as having left, and it is not
advertised unless an advertisement overtook the leaving. Every advertisement that is begun from then
on comes to an error, at its first step, and leaves the handle as it is. -/
theorem withdrawn_unless_overtaken {endpoint : String}
    (run : follow? ⟨{ endpoint }, []⟩ moves = some t) (rest : t.AtRest) (left : t.HasLeft) :
    t.control.left = true ∧
    (t.control.advertised = true ↔ Overtaken ⟨{ endpoint }, []⟩ moves) ∧
    ∀ later u, t.follow? later = some u → ∀ j call, t.calls.length ≤ j →
      u.calls[j]? = some (.advertise, call) →
        call = .done (.error t.control.goneError) ∨
        call = .advertise ∧ ∃ v, u.step? (.advance j) = some v ∧ v.control = u.control ∧
          v.calls[j]? = some (.advertise, .done (.error t.control.goneError)) := by
  obtain ⟨stage, sound⟩ := exists_sound run
  obtain ⟨result, told⟩ := left
  obtain ⟨i, found⟩ := List.mem_iff_getElem?.mp told
  have away : stage ≠ .member := sound.allowed i _ _ found
  have marked := sound.left.mpr away
  have unpublished : (.advertise, .publish) ∉ t.calls := fun mem => nomatch rest _ mem
  have gone : stage = .gone := by
    cases stage with
    | member => exact absurd rfl away
    | leaving k => exact nomatch rest _ (List.mem_of_getElem? (sound.leaver k rfl))
    | gone => rfl
  refine ⟨marked, by simp [sound.overtaken, gone, unpublished], ?_⟩
  intro later u follows j call late there
  have now : Barred t.calls.length t.control.goneError t := by
    refine ⟨marked, rfl, fun j call late there => ?_⟩
    rw [List.getElem?_eq_none late] at there
    cases there
  have barred := now.follow follows
  rcases barred.refused j call late there with refused | rfl
  · exact .inl refused
  · exact .inr ⟨rfl, barred.refuses there⟩

/-- A replica is advertised while it leaves, and leaves a second time meanwhile. -/
def leftInTime : List Move :=
  [.begin .advertise, .begin .leave, .advance 0, .advance 1, .begin .leave, .advance 2, .advance 0,
    .advance 1]

/-- An advertisement looks, the replica leaves, and the advertisement goes on. -/
def leftMeanwhile : List Move :=
  [.begin .advertise, .begin .leave, .advance 0, .advance 1, .advance 1, .advance 0]

theorem withdrawn_unless_overtaken_of_leftInTime :
    ∃ t, follow? ⟨{ endpoint := "node-1" }, []⟩ leftInTime = some t ∧ t.AtRest ∧ t.HasLeft ∧
      t.control.left = true ∧ ¬ Overtaken ⟨{ endpoint := "node-1" }, []⟩ leftInTime ∧
      ∃ u v, t.follow? [.begin .advertise] = some u ∧ u.step? (.advance 3) = some v ∧
        v.calls[3]? = some (.advertise, .done (.error t.control.goneError)) := by
  let t : Traffic := ⟨{ endpoint := "node-1", left := true },
    [(.advertise, .done (.ok ())), (.leave, .done (.ok ())), (.leave, .done (.ok ()))]⟩
  have run : follow? ⟨{ endpoint := "node-1" }, []⟩ leftInTime = some t := rfl
  have rest : t.AtRest := by simp [t, AtRest, Call.isDone]
  have left : t.HasLeft := ⟨.ok (), by simp [t]⟩
  obtain ⟨marked, withdrawn, later⟩ := withdrawn_unless_overtaken run rest left
  have kept : ¬ Overtaken ⟨{ endpoint := "node-1" }, []⟩ leftInTime := fun overtaken =>
    nomatch withdrawn.mpr overtaken
  refine ⟨t, run, rest, left, marked, kept, ?_⟩
  rcases later [.begin .advertise] _ rfl 3 .advertise (Nat.le_refl 3) rfl with refused | going
  · cases refused
  · obtain ⟨-, v, step, -, refused⟩ := going
    exact ⟨_, v, rfl, step, refused⟩

/-- A replica that has left is advertised when all calls are over. -/
theorem advertised_of_leftMeanwhile :
    ∃ t, follow? ⟨{ endpoint := "node-1" }, []⟩ leftMeanwhile = some t ∧ t.AtRest ∧ t.HasLeft ∧
      t.control.left = true ∧ t.control.advertised = true := by
  refine ⟨⟨{ endpoint := "node-1", advertised := true, left := true },
    [(.advertise, .done (.ok ())), (.leave, .done (.ok ()))]⟩, rfl, ?_, ⟨.ok (), ?_⟩, rfl, rfl⟩
  · simp [AtRest, Call.isDone]
  · simp

end Traffic
end Tenure.Standalone.Control
