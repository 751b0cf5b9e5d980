/-!
# Queues

A queue takes items at its end until it is closed. A worker looks at the items at the front, writes them, and only then
takes them off, so an item whose write fails stays where it is and keeps counting.
-/

namespace Blotter

/-- Items that wait for a worker. -/
structure Queue (ι : Type) where
  items : List ι
  /-- How many items wait. -/
  depth : Nat
  /-- From how many items on no new orders are admitted. -/
  maxDepth : Nat
  closed : Bool
deriving DecidableEq

namespace Queue

variable {ι : Type}

/-- The queue without items. -/
def new (maxDepth : Nat) : Queue ι := ⟨[], 0, maxDepth, false⟩

/-- Adds an item at the end. -/
def push (q : Queue ι) (x : ι) : Queue ι := { q with items := q.items ++ [x], depth := q.depth + 1 }

/-- Whether new orders are admitted. -/
def hasCapacity (q : Queue ι) : Bool := q.depth < q.maxDepth

/-- The first items, at most `n`. -/
def peek (q : Queue ι) (n : Nat) : List ι := q.items.take n

/-- Takes the first `n` items off, or all if there are fewer. -/
def commit (q : Queue ι) (n : Nat) : Queue ι :=
  { q with items := q.items.drop n, depth := q.depth - Nat.min n q.items.length }

/-- Lets no more items in. -/
def close (q : Queue ι) : Queue ι := { q with closed := true }

/-- Whether the queue is open and new orders are admitted. -/
def admits (q : Queue ι) : Bool := !q.closed && q.hasCapacity

end Queue

end Blotter
