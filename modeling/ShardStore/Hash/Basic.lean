/-!
# Hashes

A transaction hash is 32 bytes, kept in stored order. Its first two bytes decide where it is kept.
-/

namespace ShardStore

/-- A transaction hash: 32 bytes in stored order. -/
structure Hash where
  bytes : Vector UInt8 32
deriving DecidableEq

namespace Hash

/-- The hash that starts with the given bytes: zeros fill it up, and what is behind the 32nd byte is dropped. -/
def ofBytes (bytes : List UInt8) : Hash := ⟨Vector.ofFn fun i => bytes.getD i 0⟩

/-- The hash of 32 zeros. -/
def zero : Hash := ofBytes []

instance : Inhabited Hash := ⟨zero⟩

/-- The 32 bytes in stored order. -/
def toBytes (h : Hash) : List UInt8 := h.bytes.toList

/-- The byte at a place of the stored order. -/
def byteAt (h : Hash) (i : Fin 32) : UInt8 := h.bytes[i]

/-- The first two bytes as one number, the first byte being the high one. -/
def leading (h : Hash) : UInt16 := (h.byteAt 0).toUInt16 * 256 + (h.byteAt 1).toUInt16

end Hash

end ShardStore
