import Tenure.Proofs.Acknowledgement
import Tenure.Proofs.Outfit
import Tenure.Proofs.Rise

/-!
# A scheduler becomes active, whatever comes first

The registration of a driver may be confirmed while the driver is still being started, the leader
may be made active before it is advertised, and others may post what they like. What the driver and
the replica post is handled in the end, and by then the moves that it asks for can be made. So when
the scheduler has led and every message has been handled, it is active.
-/
namespace Tenure.Lifecycle

open Standalone (Errand Fleet Scheduler Stamp)

/-! ## What is called for is answered -/

namespace Pool

/-- A task that moves is not over. -/
theorem Moves.not_isOver {s s' : Shared} {task task' : Task} {act : Option Act}
    (moves : Moves s task act s' task') : task.isOver = false := by
  cases moves <;> rfl

/-- A call was answered, or a task waits for the answer. -/
def Minds (p : Pool) (c : Call) : Prop :=
  (∃ i x, (i, .answered c (some x)) ∈ p.trace) ∨
    ∃ (i : Nat) (o : Operation) (next : Option c.Answer → Program Outcome),
      p.tasks[i]? = some (o, .calling c next)

theorem minds_of_calls {schedule : List Choice} {p : Pool}
    (run : Pool.run Rule.calm schedule = some p) {c : Call} (called : c ∈ p.trace.calls) :
    p.Minds c := by
  -- By induction on the run: a call is open in its task from when it is made until it is answered.
  refine Pool.run_induction (motive := fun p => c ∈ p.trace.calls → p.Minds c)
    (by simp [Trace.calls]) (fun p q choice ih calm step called => ?_) run called
  rcases step?_cases step with
    ⟨operation, rfl, rfl⟩ | ⟨i, o, task, act, shared, task', -, chosen, hi, moves, rfl⟩
  · refine (ih called).imp_right ?_
    rintro ⟨i, o, next, hi⟩
    have lt := (List.getElem?_eq_some_iff.mp hi).1
    exact ⟨i, o, next, (List.getElem?_append_left lt).trans hi⟩
  · have lt := (List.getElem?_eq_some_iff.mp hi).1
    rw [put, Trace.calls, List.filterMap_append, List.mem_append] at called
    rcases called with before | now
    · rcases ih before with ⟨j, x, answered⟩ | ⟨j, o', next, hj⟩
      · exact .inl ⟨j, x, List.mem_append_left _ answered⟩
      · by_cases ij : i = j
        · subst ij
          cases hi.symm.trans hj
          cases moves with
          | @answer _ _ x =>
            have some := chosen c x rfl ▸ calm
            obtain ⟨y, rfl⟩ := Option.isSome_iff_exists.mp some
            exact .inl ⟨i, y, List.mem_append_right _ (List.mem_singleton_self _)⟩
        · exact .inr ⟨j, o', next, (List.getElem?_set_ne ij).trans hj⟩
    · cases act with
      | none => simp at now
      | some e =>
        obtain rfl : e = .called c := by cases e <;> simp_all [Act.call?]
        cases moves with
        | call => exact .inr ⟨i, o, _, List.getElem?_set_self lt⟩

/-- When every operation is over, every call has been answered. -/
theorem answered_of_quiet {schedule : List Choice} {p : Pool}
    (run : Pool.run Rule.calm schedule = some p) (quiet : p.isQuiet = true) {c : Call}
    (called : c ∈ p.trace.calls) : ∃ i x, (i, .answered c (some x)) ∈ p.trace := by
  refine (minds_of_calls run called).resolve_right ?_
  rintro ⟨i, o, next, hi⟩
  have ended := List.all_eq_true.mp quiet _ (List.mem_of_getElem? hi)
  cases ended

end Pool

/-! ## Moves are not lost -/

/-- What a receiver begins asks for the move of the receiver before anything else. -/
theorem Receiver.asksFirst_of_reaction? {k : Receiver} {event : Event} {operation : Operation}
    (reaction : k.reaction? event = some operation) :
    operation.program.asksFirst k.target = true := by
  cases k <;> cases event <;> cases reaction <;> rfl

theorem Receiver.exists_cursor {bus : Bus Event} (receives : bus.cursors.length = 2)
    (k : Receiver) : ∃ cursor, bus.cursors[k.number]? = some cursor := by
  have lt : k.number < bus.cursors.length := by
    rw [receives]
    cases k <;> decide
  exact ⟨_, List.getElem?_eq_getElem lt⟩

/-- All that becomes of a receiver that gets an event. -/
theorem Rise.react?_cases {r r' : Rise} {j : Receiver} {event : Event}
    (h : r.react? j event = some r') :
    j.reaction? event = none ∧ r' = r ∨
      ∃ operation, j.reaction? event = some operation ∧
        r' = { r with
          life := r.life.put { r.life.pool with
            tasks := r.life.pool.tasks ++ [(operation, .running operation.program)] }
          busy := fun k => if k = j then some r.life.pool.tasks.length else r.busy k } := by
  rw [react?] at h
  cases reaction : j.reaction? event with
  | none =>
    rw [reaction] at h
    cases h
    exact .inl ⟨rfl, rfl⟩
  | some operation =>
    rw [reaction] at h
    cases h
    exact .inr ⟨operation, rfl, rfl⟩

section Served

variable {w w' : Life} {i : Nat} {e e' : Errand}

/-- A collaborator posts, or leaves the bus alone. -/
theorem Life.Served.bus (served : w.Served i e e' w') :
    w'.scheduler.bus = w.scheduler.bus ∨
      ∃ event, w'.scheduler.bus = w.scheduler.bus.post event := by
  rcases bus_of_step? served.step with same | ⟨event, -, posts⟩ | ⟨id, -, posts⟩
  · exact .inl same
  · exact .inr ⟨_, posts⟩
  · exact .inr ⟨_, posts⟩

/-- Only an identity that is to be made known is announced. -/
theorem announcing_of_deed? {s : Scheduler} {id : String}
    (h : deed? s e = some (.announced id)) : ∃ driver, e = .announcing driver id := by
  revert h
  fun_cases deed? s e <;> simp_all

/-- An identity was made known before, or is now. -/
theorem Life.Served.announced (served : w.Served i e e' w') {id : String}
    (told : id ∈ w'.announced) : id ∈ w.announced ∨ ∃ driver, e = .announcing driver id := by
  obtain ⟨d, mem⟩ := Life.mem_announced.mp told
  rw [served.deeds] at mem
  rcases List.mem_append.mp mem with old | new
  · exact .inl (Life.mem_announced.mpr ⟨d, old⟩)
  · obtain ⟨deed, made, eq⟩ := Option.map_eq_some_iff.mp (Option.mem_toList.mp new)
    cases eq
    exact .inr (announcing_of_deed? made)

end Served

namespace Rise.Delivers

variable {r r' : Rise} {j k : Receiver}

/-- A move stays on its way while messages stay on the bus and tasks stay about to ask. -/
theorem mono (h : r.Delivers k)
    (rank : r.life.pool.shared.state.rank ≤ r'.life.pool.shared.state.rank)
    (owes : r.life.scheduler.bus.Owes k.number k.hears →
      r'.life.scheduler.bus.Owes k.number k.hears)
    (poised : ∀ i o task, r.busy k = some i → r.life.pool.tasks[i]? = some (o, task) →
      task.isPoised k.target = true →
      (∃ task', r'.busy k = some i ∧ r'.life.pool.tasks[i]? = some (o, task') ∧
        task'.isPoised k.target = true) ∨
      k.target.rank ≤ r'.life.pool.shared.state.rank) : r'.Delivers k := by
  refine ⟨Nat.le_trans h.near (Nat.succ_le_succ rank), ?_⟩
  rcases h.moves with made | owed | ⟨i, o, task, busy, hi, asks⟩
  · exact .inl (Nat.le_trans made rank)
  · exact .inr (.inl (owes owed))
  · rcases poised i o task busy hi asks with ⟨task', busy, hi, asks⟩ | made
    · exact .inr (.inr ⟨i, o, task', busy, hi, asks⟩)
    · exact .inl made

/-- The replica takes a step. -/
theorem move (h : r.Delivers k) {choice : Lifecycle.Choice}
    (step : r.life.pool.step? choice = some r'.life.pool) (busy : r'.busy = r.busy)
    (bus : r'.life.scheduler.bus = r.life.scheduler.bus) : r'.Delivers k := by
  rcases Pool.step?_cases step with
    ⟨operation, -, pool⟩ | ⟨i, o, task, act, shared, task', -, -, hi, moves, pool⟩
  · refine h.mono (by rw [pool]) (by rw [bus]; exact id) fun i o task hb hi asks => .inl ?_
    refine ⟨task, busy ▸ hb, ?_, asks⟩
    rw [pool]
    exact (List.getElem?_append_left (List.getElem?_eq_some_iff.mp hi).1).trans hi
  · refine h.mono (by rw [pool]; exact moves.rank_le) (by rw [bus]; exact id)
      fun j o' task'' hb hj asks => ?_
    rw [pool]
    by_cases ij : i = j
    · subst ij
      cases hi.symm.trans hj
      have lt := (List.getElem?_eq_some_iff.mp hi).1
      refine (moves.isPoised asks h.near).imp_left fun asks => ?_
      exact ⟨task', busy ▸ hb, List.getElem?_set_self lt, asks⟩
    · exact .inl ⟨task'', busy ▸ hb, (List.getElem?_set_ne ij).trans hj, asks⟩

/-- A collaborator takes a step. -/
theorem serve (h : r.Delivers k) (paced : r.life.scheduler.bus.Paced) {w : Life} {i : Nat}
    {e e' : Errand} (served : r.life.Served i e e' w) : (r.live w).Delivers k := by
  refine h.mono (by rw [show (r.live w).life.pool = _ from served.pool]) (fun owed => ?_)
    fun i o task busy hi asks => .inl ⟨task, busy, served.pool ▸ hi, asks⟩
  rcases served.bus with same | ⟨event, posts⟩
  · exact same ▸ owed
  · exact posts ▸ owed.post paced event

/-- Somebody posts. -/
theorem post (h : r.Delivers k) (paced : r.life.scheduler.bus.Paced)
    (pool : r'.life.pool = r.life.pool) (busy : r'.busy = r.busy) {event : Event}
    (bus : r'.life.scheduler.bus = r.life.scheduler.bus.post event) : r'.Delivers k := by
  refine h.mono (by rw [pool]) (fun owed => ?_) fun i o task hb hi asks => .inl ?_
  · rw [bus]
    exact owed.post paced event
  · exact ⟨task, busy ▸ hb, pool ▸ hi, asks⟩

theorem isOver_of_isFree (free : r.isFree k = true) {i : Nat} {o : Operation} {task : Task}
    (busy : r.busy k = some i) (hi : r.life.pool.tasks[i]? = some (o, task)) :
    task.isOver = true := by
  simpa [isFree, busy, hi] using free

/-- A receiver that is through with its own task has no move under way but on the bus. -/
theorem on_bus (h : r.Delivers k) (free : r.isFree k = true) :
    k.target.rank ≤ r.life.pool.shared.state.rank ∨
      r.life.scheduler.bus.Owes k.number k.hears := by
  rcases h.moves with made | owed | ⟨i, o, task, busy, hi, asks⟩
  · exact .inl made
  · exact .inr owed
  · cases (isOver_of_isFree free busy hi).symm.trans (Task.not_isOver_of_isPoised asks)

/-- A receiver gets a message: it is another's, or the receiver is about to ask for its move. -/
theorem receive (h : r.Delivers k) {event : Event} {bus : Bus Event}
    (received : r.life.scheduler.bus.receive j.number = some (.message event, bus))
    (free : r.isFree j = true) (reacts : (r.live (onBus r.life bus)).react? j event = some r') :
    r'.Delivers k := by
  -- Only the receiver's own message can be the one that was owed to it, and then it reacts.
  by_cases same : j = k
  · subst same
    have way : j.target.rank ≤ r.life.pool.shared.state.rank ∨ bus.Owes j.number j.hears ∨
        j.hears event = true := by
      refine (h.on_bus free).imp_right fun owed => ?_
      exact (owed.receive received).imp_right And.right
    rcases react?_cases reacts with ⟨none, rfl⟩ | ⟨operation, reaction, rfl⟩
    · refine ⟨h.near, way.imp_right fun way => .inl (way.resolve_right ?_)⟩
      rw [Receiver.hears, none]
      nofun
    · refine ⟨h.near, .inr (.inr ⟨_, operation, .running operation.program, if_pos rfl, ?_, ?_⟩)⟩
      · exact List.getElem?_concat_length
      · exact Receiver.asksFirst_of_reaction? reaction
  · have owed (owed : r.life.scheduler.bus.Owes k.number k.hears) : bus.Owes k.number k.hears :=
      (owed.receive received).resolve_right fun ⟨eq, _⟩ => same (Receiver.number_injective eq)
    rcases react?_cases reacts with ⟨-, rfl⟩ | ⟨operation, -, rfl⟩
    · exact h.mono (Nat.le_refl _) owed fun i o task busy hi asks => .inl ⟨task, busy, hi, asks⟩
    · refine h.mono (Nat.le_refl _) owed fun i o task busy hi asks => .inl ⟨task, ?_, ?_, asks⟩
      · exact (if_neg (Ne.symm same)).trans busy
      · exact (List.getElem?_append_left (List.getElem?_eq_some_iff.mp hi).1).trans hi

end Rise.Delivers

/-! ## What a scheduler that comes up keeps -/

namespace Lead

/-- The task that leads, and what was begun with it. -/
def main? : Lead → Option (Nat × Operation)
  | untold => none
  | preparing i => some (i, .prepare)
  | leading i grant => some (i, .lead grant)

def grant? : Lead → Option Grant
  | leading _ grant => some grant
  | _ => none

end Lead

namespace Rise

/-- A task is the one that leads, or the last of a receiver. -/
def Engages (r : Rise) (i : Nat) : Prop :=
  r.lead.main?.map Prod.fst = some i ∨ ∃ k, r.busy k = some i

/-- The life of a scheduler comes up, and the move that a message asks for is not lost. -/
structure Ascends (r : Rise) (rung : Rung) : Prop where
  rises : r.life.Rises r.lead.main? rung
  grant : rung.grant? = r.lead.grant?
  untold : r.lead = .untold → rung = .idle
  engaged : ∀ i o task, r.life.pool.tasks[i]? = some (o, task) →
    Task.isOver task = true ∨ r.Engages i
  paced : r.life.scheduler.bus.Paced
  receives : r.life.scheduler.bus.cursors.length = 2
  told : ∀ id ∈ r.life.announced, r.Delivers .registrations
  posted : ∀ event, r.life.Heard (.post event) () → r.Delivers .activations

namespace Ascends

variable {r r' : Rise} {rung rung' : Rung} {w : Life} {i : Nat}

/-! ### Steps of the replica -/

/-- A step that posts nothing, and after which no more is heard of than before. -/
theorem still (h : r.Ascends rung) (rises : r'.life.Rises r'.lead.main? rung')
    (grant : rung'.grant? = r'.lead.grant?) (untold : r'.lead = .untold → rung' = .idle)
    (engaged : ∀ i o task, r'.life.pool.tasks[i]? = some (o, task) →
      Task.isOver task = true ∨ r'.Engages i)
    (bus : r'.life.scheduler.bus = r.life.scheduler.bus) (deeds : r'.life.deeds = r.life.deeds)
    (heard : ∀ event, r'.life.Heard (.post event) () → r.life.Heard (.post event) ())
    (delivers : ∀ k, r.Delivers k → r'.Delivers k) : r'.Ascends rung' where
  rises
  grant
  untold
  engaged
  paced := bus ▸ h.paced
  receives := bus ▸ h.receives
  told id told := by
    rw [Life.announced, deeds] at told
    exact delivers _ (h.told id told)
  posted event told := delivers _ (h.posted event (heard event told))

/-- A task takes a step. -/
theorem move (h : r.Ascends rung) (rises : w.Rises r.lead.main? rung')
    (grant : rung'.grant? = rung.grant?)
    (others : r.lead.main?.map Prod.fst ≠ some i → rung' = rung) (moved : r.life.Moved w)
    {choice : Lifecycle.Choice} (mover : Pool.mover choice = some i)
    (step : r.life.pool.step? choice = some w.pool) : (r.live w).Ascends rung' := by
  refine h.still rises (grant.trans h.grant) (fun untold => ?_) (fun j o task hj => ?_)
    moved.bus moved.deeds (fun event => (moved.heard _ _).mp)
    fun k delivers => delivers.move step rfl moved.bus
  · have here : r.lead = .untold := untold
    exact (others (by rw [here]; nofun)).trans (h.untold here)
  · rcases Pool.step?_cases step with
      ⟨operation, rfl, -⟩ | ⟨i', o', task', act, shared, task'', mover', -, hi, moves, pool⟩
    · cases mover
    · cases mover.symm.trans mover'
      rw [show (r.live w).life.pool = _ from pool] at hj
      by_cases ij : i = j
      · subst ij
        have lt := (List.getElem?_eq_some_iff.mp hi).1
        cases (List.getElem?_set_self lt).symm.trans hj
        refine .inr ((h.engaged i _ task' hi).resolve_left ?_)
        rw [moves.not_isOver]
        nofun
      · exact h.engaged j o task ((List.getElem?_set_ne ij).symm.trans hj)

/-- One task more is begun. -/
theorem over_concat (h : r.Ascends rung) {operation : Operation}
    (tasks : r'.life.pool.tasks =
      r.life.pool.tasks ++ [(operation, .running operation.program)])
    (last : r'.Engages r.life.pool.tasks.length)
    (others : ∀ i o task, r.life.pool.tasks[i]? = some (o, task) → r.Engages i →
      Task.isOver task = true ∨ r'.Engages i) {o : Operation} {task : Task}
    (hi : r'.life.pool.tasks[i]? = some (o, task)) : task.isOver = true ∨ r'.Engages i := by
  rw [tasks] at hi
  by_cases lt : i < r.life.pool.tasks.length
  · rw [List.getElem?_append_left lt] at hi
    rcases h.engaged i o task hi with ended | engaged
    · exact .inl ended
    · exact others i o task hi engaged
  · have bound := (List.getElem?_eq_some_iff.mp hi).1
    rw [List.length_append, List.length_singleton] at bound
    obtain rfl : i = r.life.pool.tasks.length := by omega
    exact .inr last

/-- The next of what the scheduler was told is begun, once what came before is over. -/
theorem begin_own (h : r.Ascends rung) {operation : Operation} {scheduler : Scheduler}
    (storage : scheduler.storage = r.life.scheduler.storage)
    (fleet : scheduler.fleet = r.life.scheduler.fleet)
    (bus : scheduler.bus = r.life.scheduler.bus) {p : Pool}
    (step : r.life.pool.step? (.begin operation) = some p)
    (finished : ∀ i o task, r.lead.main? = some (i, o) → r.life.pool.tasks[i]? = some (o, task) →
      task.isOver = true)
    (fits : rung'.Fits r.life.pool.shared) (leads : rung'.isAside = false)
    (climbs : Climbs operation.Tops rung' operation.program) (outfit : rung'.outfit = rung.outfit)
    (handles : Handles scheduler.controls rung'.grant?)
    (keeps : ∀ grant, r.life.scheduler.Advertised grant → scheduler.Advertised grant) {lead : Lead}
    (main : lead.main? = some (r.life.pool.tasks.length, operation))
    (grant : rung'.grant? = lead.grant?) :
    Ascends { r with life := ({ r.life with scheduler } : Life).put p, lead } rung' := by
  have rises :=
    h.rises.begin_own storage fleet bus step finished fits leads climbs outfit handles keeps
  rw [← main] at rises
  obtain ⟨-, moved⟩ := h.rises.inStep.begin operation storage fleet bus step
  refine h.still rises grant (fun untold => ?_) (fun i o task hi => ?_) moved.bus moved.deeds
    (fun event => (moved.heard _ _).mp) fun k delivers => delivers.move step rfl moved.bus
  · have untold : lead = .untold := untold
    rw [untold] at main
    cases main
  · refine h.over_concat (by cases step; rfl) (.inl (by rw [main]; rfl))
      (fun i o task hi engaged => ?_) hi
    rcases engaged with own | engaged
    · obtain ⟨⟨j, o'⟩, here, rfl⟩ := Option.map_eq_some_iff.mp own
      obtain ⟨task', hi', -⟩ := h.rises.climbs.own j o' here
      cases hi.symm.trans hi'
      exact .inl (finished j o task here hi)
    · exact .inr (.inr engaged)

theorem prepare (h : r.Ascends rung) (step : r.step? .prepare = some r') :
    ∃ rung', r'.Ascends rung' := by
  simp only [step?] at step
  split at step
  · next untold =>
    obtain ⟨_, begins, rfl⟩ := Option.map_eq_some_iff.mp step
    simp only [Life.step?, Option.map_eq_some_iff] at begins
    obtain ⟨p, begins, rfl⟩ := begins
    obtain rfl := h.untold untold
    refine ⟨.idle, h.begin_own rfl rfl rfl begins ?_ h.rises.climbs.fits rfl climbs_prepare rfl
      h.rises.handles (fun _ => id) rfl rfl⟩
    rw [untold]
    rintro i o task ⟨⟩
  · cases step

theorem elect (h : r.Ascends rung) {endpoint : String}
    (step : r.step? (.elect endpoint) = some r') : ∃ rung', r'.Ascends rung' := by
  simp only [step?] at step
  split at step
  · next i grant scheduler preparing elected =>
    split at step
    · next ended =>
      obtain ⟨_, begins, rfl⟩ := Option.map_eq_some_iff.mp step
      simp only [Life.step?, elected, Option.map_eq_some_iff] at begins
      obtain ⟨p, begins, rfl⟩ := begins
      obtain ⟨storage, fleet, bus, controls⟩ : scheduler.storage = r.life.scheduler.storage ∧
          scheduler.fleet = r.life.scheduler.fleet ∧ scheduler.bus = r.life.scheduler.bus ∧
            scheduler.controls =
              r.life.scheduler.controls ++ [(grant, ⟨endpoint, false, false⟩)] := by
        cases elected
        exact ⟨rfl, rfl, rfl, rfl⟩
      have rises := h.rises
      have handles := rises.handles
      rw [h.grant, preparing] at handles
      rw [preparing] at rises
      obtain ⟨⟨-, rfl⟩, task, hi, finished⟩ := rises.climbs.tops ended
      -- Electing touches no variable, so what was known of them with the storage prepared is known.
      have fits : (Rung.elected grant).Fits r.life.pool.shared := rises.climbs.fits
      refine ⟨.elected grant, h.begin_own storage fleet bus begins
        (fun j o task' here hj => ?_) fits rfl climbs_lead rfl ?_ (fun grant' before => ?_) rfl rfl⟩
      · rw [preparing] at here
        cases here
        cases hi.symm.trans hj
        exact finished
      · exact ⟨_, by rw [controls, handles]; rfl, rfl⟩
      · obtain ⟨control, found, -⟩ := before
        rw [handles] at found
        cases found
    · cases step
  · cases step

/-! ### Steps of the collaborators -/

/-- A registration is made known while the driver is started, by the task that leads. -/
theorem announced (h : r.Ascends rung) {driver : DriverId} {id : String} {e' : Errand}
    (served : r.life.Served i (.announcing driver id) e' w) :
    (r.live w).Delivers .registrations := by
  obtain ⟨-, asks, -⟩ := h.rises.leads served.errand rfl
  have fits := h.rises.climbs.fits
  cases rung with
  | published grant driver' =>
    obtain ⟨-, next⟩ := Prod.mk.inj (Option.some.inj served.step)
    obtain ⟨cursor, receives⟩ := Receiver.exists_cursor h.receives .registrations
    refine ⟨?_, .inr (.inl ?_)⟩
    · rw [show (r.live w).life.pool = _ from served.pool]
      exact Nat.succ_le_succ fits.1.begun
    · rw [show (r.live w).life.scheduler.bus = _ from congrArg Scheduler.bus next.symm]
      exact Bus.owes_post h.paced receives rfl
  | _ => cases asks

/-- What the replica posts is that it is registered. -/
theorem answered (h : r.Ascends rung) {event : Event} {e : Errand}
    (served : r.life.Served i e (.done (.post event) ()) w) :
    (r.live w).Delivers .activations := by
  have call : Call.post event = e.call := Errand.call_of_step? served.step
  obtain rfl : e = .begun (.post event) := by
    cases e with
    | begun c => exact congrArg Errand.begun call.symm
    | done => cases served.step
    | _ => cases call
  obtain ⟨grant, -, registered, rfl⟩ := h.rises.confirms served.errand rfl
  obtain ⟨-, next⟩ := Prod.mk.inj (Option.some.inj served.step)
  obtain ⟨cursor, receives⟩ := Receiver.exists_cursor h.receives .activations
  refine ⟨?_, .inr (.inl ?_)⟩
  · rw [show (r.live w).life.pool = _ from served.pool]
    exact Nat.succ_le_succ registered
  · rw [show (r.live w).life.scheduler.bus = _ from congrArg Scheduler.bus next.symm]
    exact Bus.owes_post h.paced receives rfl

theorem serve (h : r.Ascends rung) {e e' : Errand} (served : r.life.Served i e e' w) :
    (r.live w).Ascends rung := by
  have delivers (k : Receiver) (before : r.Delivers k) : (r.live w).Delivers k :=
    before.serve h.paced served
  -- What is on its way stays so. New are a registration that is made known and a post of the
  -- replica, and each is on the bus when the move that it asks for is near.
  refine
    { rises := h.rises.serve served
      grant := h.grant
      untold := h.untold
      engaged := served.pool ▸ h.engaged
      paced := ?_
      receives := ?_
      told := fun id told => ?_
      posted := fun event heard => ?_ }
  · rcases served.bus with same | ⟨event, posts⟩
    · exact same ▸ h.paced
    · exact posts ▸ h.paced.post event
  · rcases served.bus with same | ⟨event, posts⟩
    · exact same ▸ h.receives
    · rw [show (r.live w).life.scheduler.bus = _ from posts, Bus.cursors_post]
      exact h.receives
  · rcases served.announced told with before | ⟨driver, rfl⟩
    · exact delivers _ (h.told id before)
    · exact h.announced served
  · rcases served.heard_iff.mp heard with before | rfl
    · exact delivers _ (h.posted event before)
    · exact h.answered served

/-- Somebody else posts. -/
theorem post (h : r.Ascends rung) (event : Event) :
    (r.live (onBus r.life (r.life.scheduler.bus.post event))).Ascends rung where
  rises := h.rises.onBus _
  grant := h.grant
  untold := h.untold
  engaged := h.engaged
  paced := h.paced.post event
  receives := (congrArg List.length (Bus.cursors_post ..)).trans h.receives
  told id told := (h.told id told).post h.paced rfl rfl rfl
  posted event' heard := (h.posted event' heard).post h.paced rfl rfl rfl

/-- A receiver gets a message. -/
theorem receive (h : r.Ascends rung) {k : Receiver} {event : Event} {bus : Bus Event}
    (received : r.life.scheduler.bus.receive k.number = some (.message event, bus))
    (free : r.isFree k = true) (reacts : (r.live (onBus r.life bus)).react? k event = some r') :
    r'.Ascends rung := by
  have delivers (j : Receiver) (before : r.Delivers j) : r'.Delivers j :=
    before.receive received free reacts
  have paced := h.paced.receive received
  have receives : bus.cursors.length = 2 := by
    obtain ⟨cursor, rest, -, -, -, rfl⟩ := Bus.receive_message received
    exact List.length_set.trans h.receives
  rcases react?_cases reacts with ⟨-, rfl⟩ | ⟨operation, reaction, rfl⟩
  · exact
      { rises := h.rises.onBus bus
        grant := h.grant
        untold := h.untold
        engaged := h.engaged
        paced
        receives
        told := fun id told => delivers _ (h.told id told)
        posted := fun event heard => delivers _ (h.posted event heard) }
  · have climbs : Climbs operation.Tops .aside operation.program := by
      cases k <;> cases event <;> cases reaction
      · exact climbs_registered _
      · exact climbs_activate
    refine
      { rises := (h.rises.onBus bus).begin_aside rfl climbs
        grant := h.grant
        untold := h.untold
        engaged := fun i o task hi => ?_
        paced
        receives
        told := fun id told => delivers _ (h.told id told)
        posted := fun event heard => delivers _ (h.posted event heard) }
    refine h.over_concat rfl (.inr ⟨k, if_pos rfl⟩) (fun i o task hi engaged => ?_) hi
    rcases engaged with own | ⟨j, busy⟩
    · exact .inr (.inl own)
    · by_cases same : j = k
      · exact .inl (Rise.Delivers.isOver_of_isFree (same ▸ free) (same ▸ busy) hi)
      · exact .inr (.inr ⟨j, (if_neg same).trans busy⟩)

/-! ### Every step -/

theorem step (h : r.Ascends rung) {choice : Choice} (step : r.step? choice = some r') :
    ∃ rung', r'.Ascends rung' := by
  cases choice with
  | prepare => exact h.prepare step
  | elect endpoint => exact h.elect step
  | advance i =>
    simp only [step?, Life.step?, Option.map_map, Option.map_eq_some_iff] at step
    obtain ⟨p, step, rfl⟩ := step
    obtain ⟨rung', next, others, rises⟩ := h.rises.advance step
    obtain ⟨-, moved⟩ := h.rises.inStep.advance step
    exact ⟨rung', h.move rises next.grant? others moved rfl step⟩
  | serve i =>
    simp only [step?, Life.step?, Option.map_eq_some_iff, Option.bind_eq_some_iff] at step
    obtain ⟨w, ⟨e, errand, serves⟩, rfl⟩ := step
    cases e with
    | done c x =>
      simp only [Life.serve?, Option.map_eq_some_iff] at serves
      obtain ⟨p, step, rfl⟩ := serves
      obtain ⟨-, moved⟩ := h.rises.inStep.answer errand step
      refine ⟨_, h.move (h.rises.answer errand step) ?_ (fun other => if_neg other) moved rfl step⟩
      split
      · exact rung.grant?_hear x
      · rfl
    | _ =>
      simp only [Life.serve?, Option.map_eq_some_iff] at serves
      obtain ⟨next, proceeds, rfl⟩ := serves
      exact ⟨rung, h.serve (.settle errand proceeds)⟩
  | receive k =>
    simp only [step?] at step
    split at step
    · next free =>
      obtain ⟨⟨m, bus⟩, received, step⟩ := Option.bind_eq_some_iff.mp step
      cases m with
      | message event => exact ⟨rung, h.receive received free step⟩
      | _ => cases step
    · cases step
  | post event =>
    cases step
    exact ⟨rung, h.post event⟩
  | exit driver =>
    simp [step?, h.rises.outfit.join?_eq_none] at step

/-- A scheduler begins its rise when it is assembled. -/
theorem start {config : Config} {d : Durable} {stamp : Stamp} {s : Scheduler}
    (assembled : (Scheduler.assemble config d stamp).toOption = some s) (opens : d.Opens) :
    Ascends { life := { scheduler := s } } .idle := by
  obtain ⟨storage, drivers, bus⟩ := Scheduler.of_assemble assembled
  have controls := Scheduler.controls_of_assemble assembled
  have unheard (c : Call) (x : c.Answer) : ¬ ({ scheduler := s } : Life).Heard c x := by
    rintro ⟨i, errand | answered⟩
    · cases errand
    · cases answered
  exact
    { rises := .start (storage ▸ opens) drivers controls
      grant := rfl
      untold := fun _ => rfl
      engaged := fun i o task hi => by cases hi
      paced := by
        show ∀ cursor ∈ s.bus.cursors, cursor ≤ s.bus.tail
        rw [bus]
        decide
      receives := by
        show s.bus.cursors.length = 2
        rw [bus]
        rfl
      told := nofun
      posted := fun event heard => (unheard _ _ heard).elim }

end Ascends

/-! ## What a scheduler has come to -/

/-- The scheduler leads with a grant, and all that was to be done for it was done. -/
structure Active (r : Rise) (grant : Grant) : Prop where
  state : r.life.pool.shared.state = .active
  acknowledged : r.life.pool.shared.acknowledged = true
  /-- The handle of the grant is advertised, and nobody has left with it. -/
  control : ∃ control, r.life.scheduler.controls.lookup grant = some control ∧
    control.advertised = true ∧ control.left = false
  /-- The driver that others refer to runs. -/
  driver : ∃ driver resumed, r.life.pool.shared.driver = some driver ∧
    r.life.scheduler.fleet.drivers[driver.index]? = some ⟨resumed, .running⟩
  /-- It registered under an identity, once, and the store has that identity. -/
  identity : ∃ id, r.life.registered = [id] ∧ r.life.scheduler.storage.Reads (some id)

/-- When a receiver is done, its move has been made. -/
theorem Delivers.of_isDone {r : Rise} {k : Receiver} (h : r.Delivers k) (done : r.isDone k = true) :
    k.target.rank ≤ r.life.pool.shared.state.rank := by
  obtain ⟨free, empty⟩ := Bool.and_eq_true_iff.mp done
  cases received : r.life.scheduler.bus.receive k.number with
  | none =>
    rw [received] at empty
    cases empty
  | some next =>
    obtain ⟨m, bus⟩ := next
    rw [received] at empty
    obtain rfl : m = .empty := of_decide_eq_true empty
    exact (h.on_bus free).resolve_right (Bus.not_owes_of_empty received)

namespace Ascends

variable {r : Rise} {rung : Rung} {result : Except LifecycleError Grant}

/-- A scheduler that has come to an end with what it was told leads, and has a driver. -/
theorem of_returned (h : r.Ascends rung) (returned : r.returned? = some result) :
    ∃ i grant driver task, result = .ok grant ∧ r.lead = .leading i grant ∧
      rung = .driving grant driver ∧ r.life.pool.tasks[i]? = some (.lead grant, task) ∧
        task.isOver = true := by
  have climbs := h.rises.climbs
  rw [returned?] at returned
  cases lead : r.lead with
  | untold => simp [lead] at returned
  | preparing i =>
    rw [lead] at climbs returned
    dsimp only at returned
    split at returned
    · next e ended => cases (climbs.tops ended).1.1
    · cases returned
  | leading i grant =>
    rw [lead] at climbs returned
    obtain ⟨outcome, ended, rfl⟩ := Option.map_eq_some_iff.mp returned
    obtain ⟨⟨rfl, driver, rfl⟩, task, hi, finished⟩ := climbs.tops ended
    exact ⟨i, grant, driver, task, rfl, rfl, rfl, hi, finished⟩

/-- When the scheduler has led and the receivers are done, nothing is under way. -/
theorem isQuiet (h : r.Ascends rung)
    (main : ∀ i o task, r.lead.main?.map Prod.fst = some i →
      r.life.pool.tasks[i]? = some (o, task) → task.isOver = true)
    (done : ∀ k, r.isDone k = true) : r.life.pool.isQuiet = true := by
  refine List.all_eq_true.mpr fun ⟨o, task⟩ mem => ?_
  obtain ⟨i, hi⟩ := List.mem_iff_getElem?.mp mem
  rcases h.engaged i o task hi with finished | own | ⟨k, busy⟩
  · exact finished
  · exact main i o task own hi
  · exact Rise.Delivers.isOver_of_isFree (Bool.and_eq_true_iff.mp (done k)).1 busy hi

/-- A replica that is registered when nothing is under way has had its grant advertised, and has
posted that it is. -/
theorem heard_of_registered {w : Life} (inStep : w.InStep) (quiet : w.pool.isQuiet = true)
    (live : w.pool.shared.state ≠ .dead)
    (registered : State.registeredLeader.rank ≤ w.pool.shared.state.rank) :
    w.pool.shared.acknowledged = true ∧ w.Heard (.post .schedulerActive) () ∧
      ∃ grant x, w.Heard (.advertise grant) x := by
  obtain ⟨schedule, run⟩ := inStep.run
  obtain ⟨l, G, adequate, reached⟩ := Pool.accounted run
  have rest := adequate.atRest quiet
  rw [← adequate.shared] at live registered ⊢
  obtain ⟨grant, advertised⟩ := rest.advertised reached live registered
  refine ⟨(rest.flagged_of_live reached live).mpr registered, ?_, grant, .ok (), ?_⟩
  · have posted : Call.post .schedulerActive ∈ w.pool.trace.calls.filter Call.posts := by
      rw [adequate.calls, reached.posts, advertised]
      exact List.mem_singleton_self _
    obtain ⟨i, x, answered⟩ := Pool.answered_of_quiet run quiet (List.mem_filter.mp posted).1
    exact ⟨i, .inr answered⟩
  · have answered : Act.answered (.advertise grant) (some (.ok ())) ∈
        w.pool.trace.about Call.advertises := by
      rw [adequate.about, reached.adverts, advertised]
      exact List.mem_cons_of_mem _ (List.mem_singleton_self _)
    obtain ⟨⟨i, act⟩, mem, rfl⟩ := List.mem_map.mp (List.mem_filter.mp answered).1
    exact ⟨i, .inr mem⟩

end Ascends

namespace Choice

/-- A task takes some steps, and its collaborator some after them. -/
def upTo (i n m : Nat) : List Choice :=
  List.replicate n (.advance i) ++ List.replicate m (.serve i)

/-- The registration is confirmed while the driver is still being started, and the leader is made
active before it is advertised. Others post before there is a leader and when there is one. -/
def hurried : List Choice :=
  [[.post .schedulerActive, .prepare, .receive .activations, .advance 1],
    upTo 0 3 2, upTo 0 1 2, upTo 0 3 2,
    .elect "a" :: upTo 2 5 2, upTo 2 2 3, upTo 2 1 3, upTo 2 2 2, upTo 2 2 2, upTo 2 1 2,
    upTo 2 3 4,
    .receive .registrations :: .receive .registrations :: upTo 3 4 2, upTo 3 4 1,
    .receive .activations :: .receive .activations :: upTo 4 3 2,
    .serve 2 :: upTo 2 3 2, .advance 2 :: .serve 3 :: upTo 3 2 5,
    [.advance 3, .post (.driverRegistered "g"), .receive .activations, .receive .registrations,
      .receive .registrations, .advance 5, .advance 5]].flatten

end Choice

/-- A scheduler that has been told to lead and has come to an end with it, whose receivers have
handled every message, leads with a grant and is active: in whatever order its task, its driver
and its receivers take their steps, and whatever others post. -/
theorem reaches_active {config : Config} {d : Durable} {stamp : Stamp} {s : Scheduler}
    (assembled : (Scheduler.assemble config d stamp).toOption = some s) (opens : d.Opens)
    {schedule : List Choice} {r : Rise}
    (follow : ({ life := { scheduler := s } } : Rise).follow? schedule = some r)
    {result : Except LifecycleError Grant} (returned : r.returned? = some result)
    (done : ∀ k, r.isDone k = true) : ∃ grant, result = .ok grant ∧ r.Active grant := by
  obtain ⟨rung, h⟩ := follow_induction (motive := fun r => ∃ rung, r.Ascends rung)
    (fun _ _ _ ⟨_, h⟩ step => h.step step) ⟨.idle, .start assembled opens⟩ follow
  obtain ⟨i, grant, driver, task, rfl, lead, rfl, hi, finished⟩ := h.of_returned returned
  have rises := h.rises
  have quiet : r.life.pool.isQuiet = true := by
    refine h.isQuiet (fun j o task' own hj => ?_) done
    rw [lead] at own
    cases own
    cases hi.symm.trans hj
    exact finished
  -- The task that led has started the driver, which was made known then: so the registration was
  -- confirmed. Who confirmed it has posted that the replica is registered: so that was handled too.
  have outfit := rises.outfit
  rw [lead, show r.life.ownErrand (Lead.leading i grant).main? = none from
    rises.inStep.errands_of_isOver hi finished] at outfit
  obtain ⟨id, ready, drives, known, told⟩ := outfit
  obtain ⟨led, here⟩ := rises.climbs.fits
  have registered := (h.told id told).of_isDone (done .registrations)
  obtain ⟨acknowledged, posted, grant', x, advertised⟩ :=
    Ascends.heard_of_registered rises.inStep quiet led.live registered
  have active := (h.posted _ posted).of_isDone (done .activations)
  refine ⟨grant, rfl, ?_, acknowledged, ?_, ?_, id, drives.registered, ⟨?_, ready.file⟩, known⟩
  · have live := led.live
    cases state : r.life.pool.shared.state <;> simp_all [Receiver.target, State.rank]
  · obtain ⟨control, only, stays⟩ := rises.handles
    obtain ⟨rfl, advertised⟩ :=
      (Scheduler.advertised_only only).mp (rises.advertised grant' x advertised)
    exact ⟨control, by rw [only, List.lookup_cons_self], advertised, stays⟩
  · obtain ⟨resumed, only⟩ := drives.running
    exact ⟨driver, resumed, here, by rw [only, drives.first]; rfl⟩
  · rw [ready.opened]
    intro unopened
    cases unopened

/-- The scheduler becomes active while its driver is still being started, and before its handle is
advertised; in the end all is as it should be. -/
theorem reaches_active_of_hurried :
    ∃ s r grant,
      (Scheduler.assemble {} (.onDisk (.store (Store.empty.setFrameworkId "f")))
        ⟨7, 100⟩).toOption = some s ∧
      ({ life := { scheduler := s } } : Rise).follow? Choice.hurried = some r ∧
        r.returned? = some (.ok grant) ∧ r.life.registered = ["f"] ∧ r.Active grant := by
  let look (r : Rise) := (r.returned?.map Except.isOk, r.isDone .registrations,
    r.isDone .activations, r.life.registered)
  have seen : ∃ s, s ∈ (Scheduler.assemble {}
      (.onDisk (.store (Store.empty.setFrameworkId "f"))) ⟨7, 100⟩).toOption ∧
      (({ life := { scheduler := s } } : Rise).follow? Choice.hurried).map look =
        some (some true, true, true, ["f"]) := by
    decide +kernel
  obtain ⟨s, assembled, seen⟩ := seen
  obtain ⟨r, follow, seen⟩ := Option.map_eq_some_iff.mp seen
  simp only [look, Prod.mk.injEq] at seen
  obtain ⟨returned, registrations, activations, registered⟩ := seen
  obtain ⟨result, returned, -⟩ := Option.map_eq_some_iff.mp returned
  have opens : (Durable.onDisk (.store (Store.empty.setFrameworkId "f"))).Opens :=
    .inr ⟨rfl, _, rfl, nofun, _, Store.empty.frameworkId_setFrameworkId "f"⟩
  obtain ⟨grant, rfl, active⟩ := reaches_active assembled opens follow returned
    fun k => by cases k <;> assumption
  exact ⟨s, r, grant, assembled, follow, returned, registered, active⟩

end Rise

end Tenure.Lifecycle
