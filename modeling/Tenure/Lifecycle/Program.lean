import Tenure.Lifecycle.Call
import Tenure.Log

/-!
# Programs of a replica

An operation on a replica is a finite tree of accesses to the shared variables and calls to
the collaborators, each followed by what happens on each of its answers. A collaborator that
panics gives no answer, and the operation unwinds: what was to follow is dropped, up to what
`ensure` has put aside for this case.
-/
namespace Tenure.Lifecycle

inductive Program (α : Type) where
  | done (a : α)
  /-- A panic is on its way out of the operation. -/
  | unwind
  | access (a : Access) (next : a.Answer → Program α)
  | note (entry : Log.Entry) (next : Program α)
  | call (c : Call) (next : Option c.Answer → Program α)

namespace Program

variable {α β : Type}

def bind : Program α → (α → Program β) → Program β
  | done a, f => f a
  | unwind, _ => unwind
  | access a next, f => access a fun x => (next x).bind f
  | note entry next, f => note entry (next.bind f)
  | call c next, f => call c fun x => (next x).bind f

instance : Monad Program where
  pure := done
  bind := bind

/-- Runs `last` after a program, whether it ends or unwinds. -/
def ensure : Program α → Program Unit → Program α
  | done a, last => last.bind fun _ => done a
  | unwind, last => last.bind fun _ => unwind
  | access a next, last => access a fun x => (next x).ensure last
  | note entry next, last => note entry (next.ensure last)
  | call c next, last => call c fun x => (next x).ensure last

/-! ## Single steps -/

def touch (a : Access) : Program a.Answer := access a done

def log (entry : Log.Entry) : Program Unit := note entry (done ())

def ask (c : Call) : Program c.Answer :=
  call c fun
    | some answer => done answer
    | none => unwind

/-- Holds a lock while a program runs, and gives it back even if the program unwinds. -/
def withLock (l : Lock) (body : Program α) : Program α := do
  touch (.lock l)
  body.ensure (touch (.unlock l))

/-! ## Running -/

/-- How the steps of a program are carried out. -/
structure Handler (m : Type → Type) where
  access : (a : Access) → m a.Answer
  note : Log.Entry → m Unit
  /-- `none` if the collaborator panics. -/
  call : (c : Call) → m (Option c.Answer)

/-- Runs a program to its end; `none` if it unwinds. -/
def run {m : Type → Type} [Monad m] (h : Handler m) : Program α → m (Option α)
  | done a => return some a
  | unwind => return none
  | access a next => do run h (next (← h.access a))
  | note entry next => do
    h.note entry
    run h next
  | call c next => do run h (next (← h.call c))

/-! ## Laws -/

theorem bind_eq (p : Program α) (f : α → Program β) : p >>= f = p.bind f := rfl

@[simp] theorem bind_done (p : Program α) : p.bind done = p := by
  induction p with
  | done | unwind => rfl
  | access a next ih => simp [bind, ih]
  | note entry next ih => simp [bind, ih]
  | call c next ih => simp [bind, ih]

theorem bind_assoc {γ : Type} (p : Program α) (f : α → Program β) (g : β → Program γ) :
    (p.bind f).bind g = p.bind fun a => (f a).bind g := by
  induction p with
  | done | unwind => rfl
  | access a next ih => simp [bind, ih]
  | note entry next ih => simp [bind, ih]
  | call c next ih => simp [bind, ih]

end Program
end Tenure.Lifecycle
