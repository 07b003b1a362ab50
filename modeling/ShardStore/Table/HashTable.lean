import Std.Data.HashMap
import ShardStore.Table.Basic
import ShardStore.Table.Slots

/-!
# Hash tables

The table that stores use where the order does not matter: it lists its entries in an order of its own.
-/

namespace ShardStore

instance {κ ν : Type} [BEq κ] [Hashable κ] : Table (Std.HashMap κ ν) κ ν where
  withCapacity hint := .emptyWithCapacity hint
  get? t k := t[k]?
  contains t k := t.contains k
  insert t k v := (t[k]?, t.insert k v)
  remove t k := (t[k]?, t.erase k)
  replace t k v :=
    match t[k]? with
    | some old => (some old, t.insert k v)
    | none => (none, t)
  size t := t.size
  toList t := t.toList

/-- A block has the slots of the table, a byte that tells the state of each, and the states of one more window. -/
instance {κ ν : Type} [BEq κ] [Hashable κ] [ByteSize κ] [ByteSize ν] : Footprint (Std.HashMap κ ν) where
  bytes := 32
  room hint := if hint = 0 then 0 else Slots.countFor hint * (entryBytes κ ν + 1) + Slots.window
  fault := .hashTable

end ShardStore
