/-!
# A bus with bounded memory

Messages go to every receiver that was there when they were posted. The bus keeps only the
latest ones, so a slow receiver may find that messages have gone: it is told how many, and
goes on with the oldest that is left. A message that nobody can receive is not kept.

`Bus.missed` and `Bus.waiting` are the view of one receiver: how many messages it has lost
and which it can still get.
-/
namespace Tenure

structure Bus (α : Type) where
  capacity : Nat
  /-- The latest messages, oldest first. -/
  retained : List α := []
  /-- How many messages were kept and have been dropped since. -/
  dropped : Nat := 0
  /-- For each receiver, the number of the message that it is to get next. -/
  cursors : List Nat := []
  closed : Bool := false

namespace Bus

inductive Received (α : Type) where
  | message (m : α)
  | lagged (missed : Nat)
  | empty
  | closed
  deriving DecidableEq

variable {α : Type}

/-- The least power of two that is not below `n`, for a positive `n`. -/
def roundUp (n : Nat) : Nat := if n ≤ 1 then 1 else Nat.pow 2 (Nat.log2 (n - 1) + 1)

/-- A bus for at least `capacity` messages; there is none without room for a message. -/
def new? (capacity : Nat) : Option (Bus α) :=
  if capacity = 0 then none else some { capacity := roundUp capacity }

def defaultCapacity : Nat := 64

/-- How many messages have been kept so far. -/
def tail (b : Bus α) : Nat := b.dropped + b.retained.length

/-- Adds a receiver, which gets what is posted from now on, and gives its number. -/
def subscribe (b : Bus α) : Nat × Bus α :=
  (b.cursors.length, { b with cursors := b.cursors ++ [b.tail] })

def keep (b : Bus α) (m : α) : Bus α :=
  let retained := b.retained ++ [m]
  let surplus := retained.length - b.capacity
  { b with retained := retained.drop surplus, dropped := b.dropped + surplus }

def post (b : Bus α) (m : α) : Bus α := if b.cursors.isEmpty then b else b.keep m

/-- A message is kept beside those from before, or is not kept. -/
theorem mem_retained_post {b : Bus α} {m m' : α} (h : m' ∈ (b.post m).retained) :
    m' ∈ b.retained ∨ m' = m := by
  rw [post] at h
  split at h
  · exact .inl h
  · simpa using List.mem_of_mem_drop h

def close (b : Bus α) : Bus α := { b with closed := true }

def missed (b : Bus α) (cursor : Nat) : Nat := b.dropped - cursor

def waiting (b : Bus α) (cursor : Nat) : List α := b.retained.drop (cursor - b.dropped)

/-- The next thing for a receiver that is to get message `cursor`, and where it goes on. -/
def next (b : Bus α) (cursor : Nat) : Received α × Nat :=
  if 0 < b.missed cursor then (.lagged (b.missed cursor), b.dropped)
  else match b.waiting cursor with
    | m :: _ => (.message m, cursor + 1)
    | [] => (if b.closed then .closed else .empty, cursor)

def receive (b : Bus α) (receiver : Nat) : Option (Received α × Bus α) :=
  b.cursors[receiver]?.map fun cursor =>
    let (received, cursor) := b.next cursor
    (received, { b with cursors := b.cursors.set receiver cursor })

/-- All that a receiver at `cursor` gets before the bus is empty to it: first the loss, if there
is one, then the messages. -/
def drain (b : Bus α) (cursor : Nat) : List (Received α) :=
  let loss := if 0 < b.missed cursor then [Received.lagged (b.missed cursor)] else []
  loss ++ (b.waiting cursor).map Received.message

/-- All that a receiver can get now. -/
def receiveAll (b : Bus α) (receiver : Nat) : List (Received α) × Bus α :=
  match b.cursors[receiver]? with
  | some cursor => (b.drain cursor, { b with cursors := b.cursors.set receiver b.tail })
  | none => ([], b)

end Bus
end Tenure
