import ShardStore.Counted.Writer
import ShardStore.Slot

/-!
# Sharded counted stores

Counted stores, one for each bucket of the keys and one more that routing never reaches. The whole is filled key by key,
or by the writers of its buckets, each of which has one bucket to itself.
-/

namespace ShardStore

/-- A map of numbers split over the stores of its buckets. -/
structure CountedShards (τ : Type) where
  /-- The number of buckets. -/
  buckets : UInt64
  positive : 0 < buckets
  /-- The stores, one more than buckets. -/
  stores : Vector (Counted τ) (buckets.toNat + 1)

/-- A large bucket count, with zero raised to one. -/
def atLeastOneBucket (n : UInt64) : UInt64 := if n = 0 then 1 else n

theorem atLeastOneBucket_pos (n : UInt64) : 0 < atLeastOneBucket n := by
  unfold atLeastOneBucket
  split
  · decide
  · next h => exact UInt64.pos_iff_ne_zero.2 h

namespace CountedShards

/-- The number of entries that each store should expect: an even share, rounded down. -/
def share (hint : Nat) (buckets : UInt64) : Nat := hint / buckets.toNat

variable {τ : Type}

/-- The bucket of a key. -/
def bucketFor (m : CountedShards τ) (key : UInt64) : UInt64 := numberBucket key m.buckets

theorem bucketFor_lt (m : CountedShards τ) (key : UInt64) : (m.bucketFor key).toNat < m.buckets.toNat := by
  have h := UInt64.lt_iff_toNat_lt.1 m.positive
  simpa [bucketFor, numberBucket] using Nat.mod_lt _ h

/-- The store of the bucket of a key. -/
def storeFor (m : CountedShards τ) (key : UInt64) : Counted τ :=
  have := m.bucketFor_lt key
  m.stores[(m.bucketFor key).toNat]

/-- The writer of a bucket. -/
def writer (m : CountedShards τ) (i : Fin m.buckets.toNat) : Writer τ where
  bucket := .ofNat i
  buckets := m.buckets
  store := m.stores[i.val]

/-- The writers of all buckets, in order; the last store has none. -/
def writers (m : CountedShards τ) : Array (Writer τ) := Array.ofFn m.writer

/-- The writers of all buckets, if there can be a block for them. -/
def writers? (m : CountedShards τ) : Except MakeFault (Array (Writer τ)) :=
  if m.buckets.toNat * Writer.bytes ≤ mostBytes then .ok m.writers else .error (.memory .array)

/-- The number of entries in all stores, by their counts. -/
def size (m : CountedShards τ) : Nat := (m.stores.toList.map Counted.size).foldr (· + ·) 0

variable [Table τ UInt64 UInt64]

/-- The empty map of `n` buckets for about `hint` entries; zero buckets are raised to one. -/
def withBuckets (hint : Nat) (n : UInt64) : CountedShards τ where
  buckets := atLeastOneBucket n
  positive := atLeastOneBucket_pos n
  stores := Vector.replicate _ (Counted.withCapacity (share hint (atLeastOneBucket n)))

/-- Makes the empty map of `n` buckets for about `hint` entries, with all sizes calculated in words. -/
def make? [Footprint τ] (hint n : UInt64) : Except MakeFault (CountedShards τ) := do
  let buckets := atLeastOneBucket n
  let share ← quotient? hint.toNat buckets.toNat
  let stores ← row? (buckets.toNat + 1) (Counted.bytes τ) (Counted.make? share)
  return { buckets, positive := atLeastOneBucket_pos n, stores }

/-- Makes the empty map of the default number of buckets. -/
def makeDefault? [Footprint τ] (hint : UInt64) : Except MakeFault (CountedShards τ) := make? hint defaultBuckets.toUInt64

/-- Lets the writer of bucket `i` work, and takes its store back. -/
def onWriter {α : Type} (m : CountedShards τ) (i : Fin m.buckets.toNat) (work : Writer τ → α × Writer τ) :
    α × CountedShards τ :=
  let (answer, stores) := workAt m.stores i.castSucc (Counted.withCapacity 0) fun store =>
    let (answer, w) := work { bucket := .ofNat i, buckets := m.buckets, store }
    (answer, w.store)
  (answer, { m with stores })

/-- Adds a key that is not there. -/
def put (m : CountedShards τ) (key value : UInt64) : Outcome × CountedShards τ :=
  let i : Fin m.buckets.toNat := ⟨(m.bucketFor key).toNat, m.bucketFor_lt key⟩
  let (outcome, stores) := workAt m.stores i.castSucc (Counted.withCapacity 0) (·.put key value)
  (outcome, { m with stores })

/-- Whether a key is there. -/
def contains (m : CountedShards τ) (key : UInt64) : Bool := (m.storeFor key).contains key

/-- The value of a key. -/
def get? (m : CountedShards τ) (key : UInt64) : Option UInt64 := (m.storeFor key).get? key

end CountedShards

/-- An operation on a sharded counted store with its arguments. -/
inductive CountedOp where
  | put (key value : UInt64)
  | get (key : UInt64)
  | contains (key : UInt64)
  | size
  /-- An operation of the writer of bucket `i`. -/
  | writer (i : Nat) (op : WriterOp)

/-- The answer to an operation on a sharded counted store. -/
inductive CountedAnswer where
  | outcome (o : Outcome)
  | value (v : Option UInt64)
  | truth (b : Bool)
  | count (n : Nat)
  /-- What a writer answered, unless there is none of that number. -/
  | writer (answer : Option WriterAnswer)

namespace CountedOp

variable {τ : Type} [Table τ UInt64 UInt64]

/-- Carries out one operation. -/
def step (m : CountedShards τ) : CountedOp → CountedAnswer × CountedShards τ
  | .put key value => let (o, m) := m.put key value; (.outcome o, m)
  | .get key => (.value (m.get? key), m)
  | .contains key => (.truth (m.contains key), m)
  | .size => (.count m.size, m)
  | .writer i op =>
    if h : i < m.buckets.toNat then
      let (answer, m) := m.onWriter ⟨i, h⟩ op.step
      (.writer (some answer), m)
    else (.writer none, m)

/-- Carries out operations in order. -/
def run (m : CountedShards τ) : List CountedOp → List CountedAnswer × CountedShards τ
  | [] => ([], m)
  | op :: ops =>
    let (answer, m) := step m op
    let (answers, m) := run m ops
    (answer :: answers, m)

end CountedOp

end ShardStore
