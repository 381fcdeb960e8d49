import Tenure.Proofs.Lifetime
import Tenure.Proofs.Promises

/-!
# What a leader's call has behind it

One task leads, and it asks its collaborators in one order. So what it asks for tells what it was
answered before: it has a driver made to resume the identity that it read, and it starts the driver
while the storage runs.
-/
namespace Tenure.Lifecycle

/-- The identity that a task has read. -/
def Act.read? : Act → Option (Option String)
  | answered .readFrameworkId (some (.ok id)) => some id
  | _ => none

def Leading.read? : Leading → Option (Option String)
  | identified id | creating id => some id
  | created id _ | published id _ | timed id _ | armed id _ | entered id _ | barred id _ => some id
  | cleared id _ | starting id _ | started id _ | running id _ | led id _ => some id
  | turnedAway id _ => some id
  | _ => none

theorem Act.read?_eq_some_iff {e : Act} {id : Option String} :
    e.read? = some id ↔ e = .answered .readFrameworkId (some (.ok id)) := by
  fun_cases read? e <;> simp_all

theorem Act.read?_of_isLeading {e : Act} (h : e.isLeading = false) : e.read? = none := by
  fun_cases read? e <;> first | rfl | cases h

theorem Act.read?_of_isMortal {e : Act} (h : e.isMortal = true) : e.read? = none := by
  fun_cases read? e <;> first | rfl | cases h

theorem Leading.Moves.read? {l l' : Leading} {e : Act} (h : Leading.Moves l e l') :
    l'.read?.toList = l.read?.toList ++ e.read?.toList := by
  cases h with
  | stay _ other => simp [Act.read?_of_isLeading other]
  | _ => rfl

theorem Account.Reached.read {G : Account} {permits : Account → Act → Prop}
    (h : Reached permits G) : G.acts.filterMap Act.read? = G.leading.read?.toList :=
  h.record Account.leading (·.read?.toList) _ rfl
    (fun _ _ allowed => (Leading.moves_of_allows allowed).read?)
    (fun _ mortal => Act.read?_of_isMortal mortal) fun _ _ _ step => step.leading

/-- A dying task does nothing but die. -/
theorem Place.inactive_of_allows {r : Place} {e : Act} (allowed : r.Allows e)
    (other : e.isMortal = false) (unclaimed : ∀ won, e ≠ .accessed .claimTeardown won) :
    r.death.isActive = false := by
  cases active : r.death.isActive with
  | false => rfl
  | true =>
    rw [allows_of_active active] at allowed
    cases death : r.death with
    | none | complete => rw [death] at active; cases active
    | dying =>
      rw [death] at allowed
      obtain ⟨n, rfl | ⟨x, rfl⟩⟩ | ⟨won, rfl⟩ := Death.dying_allows allowed
      · cases other
      · cases other
      · exact (unclaimed won rfl).elim
    | tearing stage =>
      rw [death] at allowed
      have mortal := (Teardown.moves_of_allows allowed).isMortal
      rw [other] at mortal
      cases mortal

namespace Adequate

variable {p : Pool} {l : List Actor} {G : Account} {permits : Account → Act → Prop} {i : Nat}
  {o : Operation} {task : Task} {c : Call}

/-- A task that waits for an answer, which is none to a teardown, is at a place of a leader. -/
theorem leading_of_open (h : Adequate p l G) (hi : p.tasks[i]? = some (o, task))
    (waits : task.open? = some c) (x : c.Answer)
    (other : (Act.answered c (some x)).isMortal = false) :
    ∃ a, l[i]? = some a ∧ a.place.leading.Allows (.answered c (some x)) := by
  rw [h.tasks, List.getElem?_map, Option.map_eq_some_iff] at hi
  obtain ⟨a, hi, eq⟩ := hi
  cases eq
  refine ⟨a, hi, ?_⟩
  have fits := h.fits a (List.mem_of_getElem? hi)
  rw [Actor.Fits] at fits
  cases eq : a.task with
  | running rest => rw [eq] at waits; cases waits
  | calling c' next =>
    rw [eq] at waits fits
    cases waits
    have allowed := (fits.2 x).1
    have inactive := Place.inactive_of_allows allowed other nofun
    exact ((Place.allows_of_inactive inactive).mp allowed).2.2.1

/-- The one task that has begun to lead is where the account is. -/
theorem leading_eq (h : Adequate p l G) {a : Actor} (hi : l[i]? = some a)
    (begun : a.place.leading ≠ .unbegun) : G.leading = a.place.leading :=
  ((h.accounts.leading.idle_or_eq hi).resolve_left begun).symm

end Adequate

namespace Pool

variable {schedule : List Choice} {p : Pool} {i j : Nat} {o o' : Operation} {task task' : Task}

/-- A task that has a driver made has read the identity that the driver is to resume, and no driver
was made before. -/
theorem behind_createDriver (run : Pool.run Rule.calm schedule = some p)
    (hi : p.tasks[i]? = some (o, task)) {id : Option String}
    (waits : task.open? = some (.createDriver id)) :
    (∃ j, (j, .answered .readFrameworkId (some (.ok id))) ∈ p.trace) ∧
      ∀ j id' driver, (j, .answered (.createDriver id') (some driver)) ∉ p.trace := by
  obtain ⟨l, G, adequate, reached⟩ := Pool.accounted run
  obtain ⟨a, hi, leading, -⟩ := adequate.leading_of_open hi waits ⟨0⟩ rfl
  have creating : G.leading = .creating id :=
    (adequate.leading_eq hi (by rw [leading]; nofun)).trans leading
  constructor
  · have read := reached.read
    rw [creating, adequate.acts] at read
    have mem : id ∈ (p.trace.map Prod.snd).filterMap Act.read? := by
      rw [read]
      exact List.mem_singleton_self id
    obtain ⟨e, mem, reads⟩ := List.mem_filterMap.mp mem
    obtain ⟨⟨j, e'⟩, mem, eq⟩ := List.mem_map.mp mem
    obtain rfl := Act.read?_eq_some_iff.mp reads
    exact ⟨j, by rwa [← eq]⟩
  · intro j id' driver mem
    have created : Act.answered (.createDriver id') (some driver) ∈
        p.trace.about Call.createsDriver :=
      List.mem_filter.mpr ⟨List.mem_map_of_mem mem, rfl⟩
    rw [adequate.about, reached.creation, creating] at created
    cases List.mem_singleton.mp created

/-- While a driver is started the storage is not stopped. -/
theorem behind_startDriver (run : Pool.run Rule.calm schedule = some p)
    (hi : p.tasks[i]? = some (o, task)) {driver : DriverId}
    (waits : task.open? = some (.startDriver driver)) : .stopStorage ∉ p.trace.calls := by
  obtain ⟨l, G, adequate, reached⟩ := Pool.accounted run
  obtain ⟨a, hi, id, leading, -⟩ := adequate.leading_of_open hi waits .running rfl
  have starting : G.leading = .starting id driver :=
    (adequate.leading_eq hi (by rw [leading]; nofun)).trans leading
  have before := reached.gate.before (by rw [starting]; rfl)
  intro mem
  have closing : Call.stopStorage ∈ p.trace.calls.filter Call.isClosing :=
    List.mem_filter.mpr ⟨mem, rfl⟩
  rw [adequate.calls, reached.closing] at closing
  cases teardown : G.teardown with
  | none | dying => rw [teardown] at closing; cases closing
  | complete => rw [teardown] at before; cases before
  | tearing stage =>
    rw [teardown] at before closing
    cases stage with
    | exited | halted | cleared => cases before
    | stopped _ seen => cases seen <;> simp_all [Death.closing, Teardown.closing]
    | _ => cases closing

/-- One task at most has a driver made. -/
theorem eq_of_createDriver (run : Pool.run Rule.calm schedule = some p)
    (hi : p.tasks[i]? = some (o, task)) (hj : p.tasks[j]? = some (o', task'))
    {id id' : Option String} (waits : task.open? = some (.createDriver id))
    (waits' : task'.open? = some (.createDriver id')) : i = j := by
  obtain ⟨l, G, adequate, reached⟩ := Pool.accounted run
  obtain ⟨a, hi, leading, -⟩ := adequate.leading_of_open hi waits ⟨0⟩ rfl
  obtain ⟨b, hj, leading', -⟩ := adequate.leading_of_open hj waits' ⟨0⟩ rfl
  exact adequate.accounts.leading.eq_of_ne hi hj (by rw [leading]; nofun) (by rw [leading']; nofun)

/-- A task that waits for an answer has called. -/
theorem mem_calls_of_open {rule : Rule} (run : Pool.run rule schedule = some p)
    (hi : p.tasks[i]? = some (o, task)) {c : Call} (waits : task.open? = some c) :
    c ∈ p.trace.calls := by
  refine Pool.run_induction (motive := fun p => ∀ i o task c, p.tasks[i]? = some (o, task) →
    task.open? = some c → c ∈ p.trace.calls) (by simp) (fun p q choice ih _ step => ?_)
    run i o task c hi waits
  intro i o task c hi waits
  rcases step?_cases step with
    ⟨operation, rfl, rfl⟩ | ⟨j, operation, task', act, shared, task'', -, -, hj, moves, rfl⟩
  · by_cases lt : i < p.tasks.length
    · exact ih i o task c (by rwa [List.getElem?_append_left lt] at hi) waits
    · rw [List.getElem?_append_right (Nat.le_of_not_lt lt), List.getElem?_singleton] at hi
      split at hi
      · cases hi
        cases waits
      · cases hi
  · by_cases ij : i = j
    · subst ij
      have lt : i < p.tasks.length := (List.getElem?_eq_some_iff.mp hj).1
      rw [put, List.getElem?_set_self lt] at hi
      cases hi
      cases moves with
      | call =>
        cases waits
        simp [put, Trace.calls, Act.call?]
      | access | note | answer => cases waits
    · rw [put, List.getElem?_set_ne (Ne.symm ij)] at hi
      have mem := ih i o task c hi waits
      rw [put, Trace.calls, List.filterMap_append]
      exact List.mem_append_left _ mem

end Pool
end Tenure.Lifecycle
