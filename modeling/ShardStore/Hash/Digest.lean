import ShardStore.Hash.Basic

/-!
# Digests

The number by which tables spread hashes: the 64-bit XXH3 digest, with the seed zero, of the length of a hash as eight
bytes and of its bytes. Eight bytes are a word, the low byte first.
-/

namespace ShardStore

/-! ## Five words -/

/-- The two halves of a product of two words, folded into one. -/
def foldedProduct (a b : UInt64) : UInt64 :=
  let product := a.toNat * b.toNat
  UInt64.ofNat product ^^^ UInt64.ofNat (product / UInt64.size)

/-- Lets every bit of a word have an effect on the low ones and on the high ones. -/
def avalanche (word : UInt64) : UInt64 :=
  let word := (word ^^^ (word >>> 37)) * 0x165667919e3779f9
  word ^^^ (word >>> 32)

/-- The digest of five words. Each word meets its neighbours in a product, under keys of its own. -/
def digestWords (a b c d e : UInt64) : UInt64 :=
  avalanche <|
    40 * 0x9e3779b185ebca87 +
    foldedProduct (a ^^^ 0xbe4ba423396cfeb8) (b ^^^ 0x1cad21f72c81017c) +
    foldedProduct (d ^^^ 0xdb979083e96dd4de) (e ^^^ 0x1f67b3b7a4a44072) +
    foldedProduct (c ^^^ 0x78e5c0cc4ee679cb) (d ^^^ 0x2172ffcc7dd05a82) +
    foldedProduct (b ^^^ 0x8e2443f7744608b8) (c ^^^ 0x4c263a81e69035e0)

/-! ## Hashes -/

namespace Hash

/-- The word at a place of the stored order, counted in words. -/
def wordAt (h : Hash) (i : Fin 4) : UInt64 :=
  Fin.foldr 8 (fun j word => word * 256 + (h.byteAt ⟨8 * i + j, by omega⟩).toUInt64) 0

/-- The digest of a hash. -/
def digest (h : Hash) : UInt64 := digestWords 32 (h.wordAt 0) (h.wordAt 1) (h.wordAt 2) (h.wordAt 3)

instance : Hashable Hash := ⟨digest⟩

end Hash

end ShardStore
