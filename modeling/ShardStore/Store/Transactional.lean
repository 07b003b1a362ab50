import ShardStore.Error
import ShardStore.Hash.Basic
import ShardStore.Walk

/-!
# Transaction maps

The operations that all maps from hashes to numbers share, as one interface, and their runs. An operation answers and
leaves a map behind; a refused one leaves the map as it was, but a batch keeps what it had put before it stopped.
-/

namespace ShardStore

/-- A finished operation, or why it was refused. -/
abbrev Outcome := Except StoreError Unit

/-- A hash with its value. -/
abbrev Entry := Hash × UInt64

/-- A map from hashes to numbers. -/
class TransactionMap (μ : Type) where
  /-- Adds a hash that is not there. -/
  put (m : μ) (h : Hash) (v : UInt64) : Outcome × μ
  /-- Adds hashes in order, up to the first that is refused; those before it stay. -/
  putAll (m : μ) (hs : List Hash) (v : UInt64) : Outcome × μ
  /-- The value of a hash. -/
  get? (m : μ) (h : Hash) : Option UInt64
  /-- Whether a hash is there. -/
  contains (m : μ) (h : Hash) : Bool
  /-- Gives a hash that is there a new value. -/
  set (m : μ) (h : Hash) (v : UInt64) : Outcome × μ
  /-- Gives a hash a new value if it is there, and answers whether it was. -/
  setIfPresent (m : μ) (h : Hash) (v : UInt64) : Bool × μ
  /-- Adds a hash if it is not there, and answers whether it did. -/
  setIfAbsent (m : μ) (h : Hash) (v : UInt64) : Bool × μ
  /-- Takes out a hash that is there. -/
  delete (m : μ) (h : Hash) : Outcome × μ
  /-- The number of entries. -/
  size (m : μ) : Nat
  /-- The hashes, in the order of the map. -/
  keys (m : μ) : List Hash
  /-- Visits the entries in the order of the map. -/
  walk {σ : Type} (m : μ) (visit : σ → Entry → σ × Signal) (state : σ) : σ

/-- An operation with its arguments. -/
inductive MapOp where
  | put (h : Hash) (v : UInt64)
  | putAll (hs : List Hash) (v : UInt64)
  | get (h : Hash)
  | contains (h : Hash)
  | set (h : Hash) (v : UInt64)
  | setIfPresent (h : Hash) (v : UInt64)
  | setIfAbsent (h : Hash) (v : UInt64)
  | delete (h : Hash)
  | size
  | keys
  /-- A walk whose visitor decides by the entries that it has seen. -/
  | walk (decide : List Entry → Signal)

/-- The answer to an operation. -/
inductive MapAnswer where
  | outcome (o : Outcome)
  | value (v : Option UInt64)
  | truth (b : Bool)
  | count (n : Nat)
  | keys (hs : List Hash)
  /-- The entries that a walk has visited. -/
  | visited (es : List Entry)

namespace MapOp

variable {μ : Type} [TransactionMap μ]

/-- Carries out one operation. -/
def step (m : μ) : MapOp → MapAnswer × μ
  | .put h v => let (o, m) := TransactionMap.put m h v; (.outcome o, m)
  | .putAll hs v => let (o, m) := TransactionMap.putAll m hs v; (.outcome o, m)
  | .get h => (.value (TransactionMap.get? m h), m)
  | .contains h => (.truth (TransactionMap.contains m h), m)
  | .set h v => let (o, m) := TransactionMap.set m h v; (.outcome o, m)
  | .setIfPresent h v => let (b, m) := TransactionMap.setIfPresent m h v; (.truth b, m)
  | .setIfAbsent h v => let (b, m) := TransactionMap.setIfAbsent m h v; (.truth b, m)
  | .delete h => let (o, m) := TransactionMap.delete m h; (.outcome o, m)
  | .size => (.count (TransactionMap.size m), m)
  | .keys => (.keys (TransactionMap.keys m), m)
  | .walk decide => (.visited (TransactionMap.walk m (recording decide) []), m)

/-- Carries out operations in order. -/
def run (m : μ) : List MapOp → List MapAnswer × μ
  | [] => ([], m)
  | op :: ops =>
    let (answer, m) := step m op
    let (answers, m) := run m ops
    (answer :: answers, m)

end MapOp

end ShardStore
