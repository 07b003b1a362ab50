import ShardStore.Error
import ShardStore.Store.Transactional
import ShardStore.Table.Basic

/-!
# Counted stores

A store of numbers that is filled once and then read. Nothing is ever taken out of it, so it counts its successful puts
and never asks its table how many entries there are.
-/

namespace ShardStore

/-- A table from numbers to numbers that counts its puts. -/
structure Counted (τ : Type) where
  table : τ
  /-- The number of successful puts, in 64 bits. -/
  count : UInt64

namespace Counted

variable {τ : Type} [Table τ UInt64 UInt64]

/-- An empty store; `hint` is the number of entries expected. -/
def withCapacity (hint : Nat) : Counted τ := ⟨Table.withCapacity hint, 0⟩

/-- Makes an empty store, if its table can be made. -/
def make? [Footprint τ] (hint : Nat) : Except MakeFault (Counted τ) := (Table.make? hint).map (mk · 0)

/-- The bytes of a store: its table and its count. -/
def bytes (τ : Type) [Footprint τ] : Nat := Footprint.bytes τ + ByteSize.bytes UInt64

/-- Whether a key is there. -/
def contains (s : Counted τ) (key : UInt64) : Bool := Table.contains s.table key

/-- The value of a key. -/
def get? (s : Counted τ) (key : UInt64) : Option UInt64 := Table.get? s.table key

/-- Adds a key that is not there. -/
def put (s : Counted τ) (key value : UInt64) : Outcome × Counted τ :=
  if Table.contains s.table key then (.error (.present (toString key)), s)
  else (.ok (), ⟨(Table.insert s.table key value).2, s.count + 1⟩)

omit [Table τ UInt64 UInt64] in
/-- The number of entries, by the count. -/
def size (s : Counted τ) : Nat := s.count.toNat

/-- The entries, in the order of the table. -/
def toList (s : Counted τ) : List (UInt64 × UInt64) := Table.toList s.table

end Counted

end ShardStore
