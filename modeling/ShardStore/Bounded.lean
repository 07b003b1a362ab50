import ShardStore.Table.Basic
import ShardStore.Walk

/-!
# Bounded maps

A map with an optional limit on its entries. A new key that comes when the map is full is dropped without a word; a key
that is there can always be changed. Nothing is evicted.
-/

namespace ShardStore

/-- A table with an optional limit on the number of entries. -/
structure Bounded (τ : Type) where
  table : τ
  /-- The most entries that new keys may lead to. -/
  limit : Option Nat

namespace Bounded

variable {τ κ ν : Type} [Table τ κ ν]

/-- An empty map without a limit. -/
def unbounded : Bounded τ := ⟨Table.withCapacity 0, none⟩

/-- An empty map of at most `limit` entries; zero means without a limit. -/
def withLimit (limit : Nat) : Bounded τ := ⟨Table.withCapacity limit, if limit = 0 then none else some limit⟩

/-- Makes an empty map of at most `limit` entries, if there can be a table for all of them. -/
def make? [Footprint τ] (limit : Nat) : Except MakeFault (Bounded τ) :=
  (Table.make? limit).map (mk · (if limit = 0 then none else some limit))

/-- The number of entries. -/
def size (m : Bounded τ) : Nat := Table.size m.table

/-- Whether a key is there. -/
def contains (m : Bounded τ) (k : κ) : Bool := Table.contains m.table k

/-- The value of a key. -/
def get? (m : Bounded τ) (k : κ) : Option ν := Table.get? m.table k

/-- The entries, in the order of the table. -/
def toList (m : Bounded τ) : List (κ × ν) := Table.toList m.table

/-- The keys, in the order of the table. -/
def keys (m : Bounded τ) : List κ := Table.keys m.table

/-- Whether the limit leaves no room for a new key. -/
def isFull (m : Bounded τ) : Bool := m.limit.any (· ≤ m.size)

/-- Visits the entries in the order of the table until the visitor asks to stop. -/
def walk {σ : Type} (m : Bounded τ) (visit : σ → κ × ν → σ × Signal) (state : σ) : σ :=
  ShardStore.walk visit state m.toList

/-- Gives a key a value, and answers whether it has it now: a new key is dropped when the map is full. -/
def trySet (m : Bounded τ) (k : κ) (v : ν) : Bool × Bounded τ :=
  if m.contains k then (true, { m with table := (Table.replace m.table k v).2 })
  else if m.isFull then (false, m)
  else (true, { m with table := (Table.insert m.table k v).2 })

/-- Gives a key a value, unless it is new and the map is full. -/
def set (m : Bounded τ) (k : κ) (v : ν) : Bounded τ := (m.trySet k v).2

/-- Gives each key the same value, one after another. -/
def setAll (m : Bounded τ) (ks : List κ) (v : ν) : Bounded τ := ks.foldl (fun m k => m.set k v) m

/-- Gives a value to a key that has none. Answers the value that stands for the key, which is the given one also when
the map was full, and whether it was stored now. -/
def setIfAbsent (m : Bounded τ) (k : κ) (v : ν) : (ν × Bool) × Bounded τ :=
  match m.get? k with
  | some stored => ((stored, false), m)
  | none =>
    let (inserted, m) := m.trySet k v
    ((v, inserted), m)

/-- Takes out a key, whether it is there or not. -/
def delete (m : Bounded τ) (k : κ) : Bounded τ := { m with table := (Table.remove m.table k).2 }

/-- Takes out keys, one after another. -/
def deleteAll (m : Bounded τ) (ks : List κ) : Bounded τ := ks.foldl delete m

/-- Takes out all keys. -/
def clear (m : Bounded τ) : Bounded τ := { m with table := Table.withCapacity 0 }

end Bounded

/-- The keys of a table as one list, and whether there are any. -/
def collectKeys {τ κ ν : Type} [Table τ κ ν] (t : τ) : List κ × Bool :=
  let keys := Table.keys t
  (keys, !keys.isEmpty)

/-- The values of a map of lists joined into one list, and whether the map has any entry. -/
def Bounded.joinValues {τ κ α : Type} [Table τ κ (List α)] (m : Bounded τ) : List α × Bool :=
  m.walk (fun seen e => ((seen.1 ++ e.2, true), .proceed)) ([], false)

/-- An operation on a bounded map with its arguments. -/
inductive BoundedOp (κ ν : Type) where
  | set (k : κ) (v : ν)
  | setAll (ks : List κ) (v : ν)
  | setIfAbsent (k : κ) (v : ν)
  | delete (k : κ)
  | deleteAll (ks : List κ)
  | clear
  | get (k : κ)
  | contains (k : κ)
  | size
  | limit
  | keys
  | entries
  /-- A walk whose visitor decides by the entries that it has seen. -/
  | walk (decide : List (κ × ν) → Signal)

/-- The answer to an operation on a bounded map. -/
inductive BoundedAnswer (κ ν : Type) where
  | done
  /-- The value that stands for a key, and whether it was stored now. -/
  | stored (v : ν) (inserted : Bool)
  | value (v : Option ν)
  | truth (b : Bool)
  | count (n : Nat)
  | limit (n : Option Nat)
  | keys (ks : List κ)
  | entries (es : List (κ × ν))
  /-- The entries that a walk has visited. -/
  | visited (es : List (κ × ν))

namespace BoundedOp

variable {τ κ ν : Type} [Table τ κ ν]

/-- Carries out one operation. Taking out always answers true. -/
def step (m : Bounded τ) : BoundedOp κ ν → BoundedAnswer κ ν × Bounded τ
  | .set k v => (.done, m.set k v)
  | .setAll ks v => (.done, m.setAll ks v)
  | .setIfAbsent k v => let ((v, inserted), m) := m.setIfAbsent k v; (.stored v inserted, m)
  | .delete k => (.truth true, m.delete k)
  | .deleteAll ks => (.truth true, m.deleteAll ks)
  | .clear => (.truth true, m.clear)
  | .get k => (.value (m.get? k), m)
  | .contains k => (.truth (m.contains k), m)
  | .size => (.count m.size, m)
  | .limit => (.limit m.limit, m)
  | .keys => (.keys m.keys, m)
  | .entries => (.entries m.toList, m)
  | .walk decide => (.visited (m.walk (recording decide) []), m)

/-- Carries out operations in order. -/
def run (m : Bounded τ) : List (BoundedOp κ ν) → List (BoundedAnswer κ ν) × Bounded τ
  | [] => ([], m)
  | op :: ops =>
    let (answer, m) := step m op
    let (answers, m) := run m ops
    (answer :: answers, m)

end BoundedOp

end ShardStore
