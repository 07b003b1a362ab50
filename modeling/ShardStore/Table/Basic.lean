import ShardStore.Memory

/-!
# Tables

What a store needs from the table behind it: look a key up, insert, remove, overwrite in place, count and list. Any table
that does this can stand behind any store.
-/

namespace ShardStore

/-- A finite table `τ` from keys `κ` to values `ν`, which grows as its entries need. -/
class Table (τ : Type) (κ ν : outParam Type) where
  /-- The empty table that is made for about `hint` entries; its contents do not depend on the hint. -/
  withCapacity (hint : Nat) : τ
  /-- The value of a key. -/
  get? (t : τ) (k : κ) : Option ν
  /-- Whether a key is there. -/
  contains (t : τ) (k : κ) : Bool := (get? t k).isSome
  /-- Gives a key a value, and answers the value that it had. -/
  insert (t : τ) (k : κ) (v : ν) : Option ν × τ
  /-- Takes a key out, and answers the value that it had. -/
  remove (t : τ) (k : κ) : Option ν × τ
  /-- Gives a key that is there a new value, and answers the value that it had. -/
  replace (t : τ) (k : κ) (v : ν) : Option ν × τ
  /-- The number of entries. -/
  size (t : τ) : Nat
  /-- The entries, each once, in the order of the table. -/
  toList (t : τ) : List (κ × ν)

/-- What tables `τ` ask of the memory. -/
class Footprint (τ : Type) where
  /-- The bytes of a table without what it points to. -/
  bytes : Nat
  /-- The bytes of the block for so many entries. -/
  room (hint : Nat) : Nat
  /-- What is said when that is too much. -/
  fault : MemoryFault

namespace Table

variable {τ κ ν : Type} [Table τ κ ν]

/-- Makes an empty table for about `hint` entries, if there can be a block for them. -/
def make? [Footprint τ] (hint : Nat) : Except MakeFault τ :=
  if Footprint.room τ hint ≤ mostBytes then .ok (withCapacity hint) else .error (.memory (Footprint.fault τ))

/-- Whether there is no entry. -/
def isEmpty (t : τ) : Bool := size t == 0

/-- The keys, in the order of the table. -/
def keys (t : τ) : List κ := (toList t).map Prod.fst

end Table

end ShardStore
