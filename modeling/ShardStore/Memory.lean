import ShardStore.Hash.Basic

/-!
# Memory

What the making of a store asks for: sizes that are words of 64 bits, and blocks of memory that have at most `mostBytes` bytes.
A store that would need more is not made. Whether the machine has as much to give as a block may have is left open, and so is
what a store asks for when it grows.
-/

namespace ShardStore

/-- What a block would be for. -/
inductive MemoryFault where
  | array
  | hashTable
deriving DecidableEq

/-- What stops the making of a store. -/
inductive MakeFault where
  | zeroDivisor
  | overflow
  /-- A block would be too large. -/
  | memory (f : MemoryFault)
deriving DecidableEq

/-- What is said of a fault. -/
def MakeFault.message : MakeFault → String
  | .zeroDivisor => "attempt to divide by zero"
  | .overflow => "attempt to add with overflow"
  | .memory .array => "capacity overflow"
  | .memory .hashTable => "Hash table capacity overflow"

/-! ## Words -/

/-- A sum, if it is a word. -/
def sum? (a b : Nat) : Except MakeFault Nat := if a + b < UInt64.size then .ok (a + b) else .error .overflow

/-- A quotient, if there is a divisor. -/
def quotient? (a b : Nat) : Except MakeFault Nat := if b = 0 then .error .zeroDivisor else .ok (a / b)

/-- The quotient, and one more if something is left over. -/
def quotientUp? (a b : Nat) : Except MakeFault Nat := do
  let q ← quotient? a b
  if a % b = 0 then .ok q else sum? q 1

/-! ## Blocks -/

/-- The most bytes that a block can have. -/
def mostBytes : Nat := 0x7fffffffffffffff

/-- So many equal items of `bytes` bytes each in a block. The block is asked for before an item is made. -/
def row? {α : Type} (count bytes : Nat) (item : Except MakeFault α) : Except MakeFault (Vector α count) :=
  if count * bytes ≤ mostBytes then item.map (Vector.replicate count) else .error (.memory .array)

/-- A type whose values have a fixed number of bytes, not counting what they point to. -/
class ByteSize (α : Type) where
  bytes : Nat

instance : ByteSize Unit := ⟨0⟩

instance : ByteSize UInt64 := ⟨8⟩

instance : ByteSize Hash := ⟨32⟩

/-- The bytes of an entry: those of its key and of its value. -/
def entryBytes (κ ν : Type) [ByteSize κ] [ByteSize ν] : Nat := ByteSize.bytes κ + ByteSize.bytes ν

end ShardStore
