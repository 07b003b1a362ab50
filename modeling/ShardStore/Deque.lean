/-!
# Double-ended lists

A list that grows at the back and gives up items at either end, for producers and consumers. How much room it makes when it
has to grow is left open: it is as much as is needed, or more.
-/

namespace ShardStore

/-- How a list makes room. -/
structure Growth where
  /-- The room that is made where there is so much and so much is needed. -/
  made (room needed : Nat) : Nat
  needed_le_made (room needed : Nat) : needed ≤ made room needed

/-- The room that is there in the end: the same as before, if that is enough. -/
def Growth.grown (growth : Growth) (room needed : Nat) : Nat := if needed ≤ room then room else growth.made room needed

/-- A double-ended list, front first. -/
structure Deque (α : Type) where
  items : List α
  /-- The number of items that there is room for; room is never given back. -/
  room : Nat

namespace Deque

variable {α : Type}

/-- An empty list with room for `capacity` items. -/
def withCapacity (growth : Growth) (capacity : Nat) : Deque α := ⟨[], growth.made 0 capacity⟩

/-- An empty list. -/
def empty (growth : Growth) : Deque α := withCapacity growth 0

/-- The number of items. -/
def length (d : Deque α) : Nat := d.items.length

/-- The item at a place counted from the front. -/
def get? (d : Deque α) (index : Nat) : Option α := d.items[index]?

/-- Adds an item at the back, and makes room for it if there is none. -/
def append (growth : Growth) (d : Deque α) (a : α) : Deque α := ⟨d.items ++ [a], growth.grown d.room (d.length + 1)⟩

/-- Takes the last item. -/
def pop (d : Deque α) : Option α × Deque α := (d.items.getLast?, { d with items := d.items.dropLast })

/-- Takes the first item. -/
def shift (d : Deque α) : Option α × Deque α := (d.items.head?, { d with items := d.items.tail })

end Deque

/-- An operation on a double-ended list with its arguments. -/
inductive DequeOp (α : Type) where
  | append (a : α)
  | pop
  | shift
  | get (index : Nat)
  | length
  | room

/-- The answer to an operation on a double-ended list. -/
inductive DequeAnswer (α : Type) where
  | done
  | item (a : Option α)
  | count (n : Nat)

namespace DequeOp

variable {α : Type}

/-- Carries out one operation. -/
def step (growth : Growth) (d : Deque α) : DequeOp α → DequeAnswer α × Deque α
  | .append a => (.done, d.append growth a)
  | .pop => let (a, d) := d.pop; (.item a, d)
  | .shift => let (a, d) := d.shift; (.item a, d)
  | .get index => (.item (d.get? index), d)
  | .length => (.count d.length, d)
  | .room => (.count d.room, d)

/-- Carries out operations in order. -/
def run (growth : Growth) (d : Deque α) : List (DequeOp α) → List (DequeAnswer α) × Deque α
  | [] => ([], d)
  | op :: ops =>
    let (answer, d) := step growth d op
    let (answers, d) := run growth d ops
    (answer :: answers, d)

end DequeOp

end ShardStore
