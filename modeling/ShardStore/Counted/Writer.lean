import ShardStore.Counted.Basic
import ShardStore.Routing

/-!
# Bucket writers

The right to fill one bucket of a split store. A writer takes only keys of its own bucket, so two writers never write
the same key.
-/

namespace ShardStore

/-- The store of one bucket, together with the routing that says which keys belong there. -/
structure Writer (τ : Type) where
  /-- The bucket that the writer fills. -/
  bucket : UInt64
  /-- The number of buckets that keys are routed to. -/
  buckets : UInt64
  store : Counted τ

namespace Writer

/-- The bytes of a writer: two numbers and the place of the store. -/
def bytes : Nat := 3 * ByteSize.bytes UInt64

variable {τ : Type} [Table τ UInt64 UInt64]

omit [Table τ UInt64 UInt64] in
/-- Whether a key belongs to the bucket of this writer. -/
def owns (w : Writer τ) (key : UInt64) : Bool := numberBucket key w.buckets == w.bucket

/-- Adds a key of this bucket that is not there; a key of another bucket is refused first. -/
def put (w : Writer τ) (key value : UInt64) : Outcome × Writer τ :=
  if w.owns key then
    let (outcome, store) := w.store.put key value
    (outcome, { w with store })
  else (.error (.foreign key w.bucket (numberBucket key w.buckets)), w)

omit [Table τ UInt64 UInt64] in
/-- The number of entries in the bucket. -/
def size (w : Writer τ) : Nat := w.store.size

end Writer

/-- An operation on a writer with its arguments. -/
inductive WriterOp where
  | bucket
  | owns (key : UInt64)
  | put (key value : UInt64)
  | size

/-- The answer to an operation on a writer. -/
inductive WriterAnswer where
  | outcome (o : Outcome)
  | truth (b : Bool)
  | count (n : Nat)

/-- Carries out one operation on a writer. -/
def WriterOp.step {τ : Type} [Table τ UInt64 UInt64] (w : Writer τ) : WriterOp → WriterAnswer × Writer τ
  | .bucket => (.count w.bucket.toNat, w)
  | .owns key => (.truth (w.owns key), w)
  | .put key value => let (o, w) := w.put key value; (.outcome o, w)
  | .size => (.count w.size, w)

end ShardStore
