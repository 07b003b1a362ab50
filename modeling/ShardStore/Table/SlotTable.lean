import ShardStore.Table.HashTable

/-!
# Hash tables in the order of their slots

A hash table that lists its entries in the order of the slots that their keys are in. The order depends on the digests of
the keys, on the room that was made at first, and on what came and went.
-/

namespace ShardStore

/-- A hash table with known slots. -/
structure SlotTable (κ ν : Type) [BEq κ] [Hashable κ] where
  entries : Std.HashMap κ ν
  slots : Slots κ

variable {κ ν : Type} [BEq κ] [Hashable κ]

instance : Table (SlotTable κ ν) κ ν where
  withCapacity hint := ⟨Table.withCapacity hint, .forKeys hint⟩
  get? t k := Table.get? t.entries k
  contains t k := Table.contains t.entries k
  insert t k v :=
    let (old, entries) := Table.insert t.entries k v
    (old, ⟨entries, t.slots.insert k⟩)
  remove t k :=
    let (old, entries) := Table.remove t.entries k
    (old, ⟨entries, t.slots.erase k⟩)
  replace t k v :=
    let (old, entries) := Table.replace t.entries k v
    (old, { t with entries })
  size t := t.entries.size
  toList t := t.entries.toList.mergeSort fun a b => t.slots.place a.1 ≤ t.slots.place b.1

instance [ByteSize κ] [ByteSize ν] : Footprint (SlotTable κ ν) where
  bytes := Footprint.bytes (Std.HashMap κ ν)
  room := Footprint.room (Std.HashMap κ ν)
  fault := Footprint.fault (Std.HashMap κ ν)

end ShardStore
