import ShardStore.Hash.Basic

/-!
# Routing

Which of `buckets` buckets a key belongs to: the remainder of a number read off the key. With no bucket at all there is
nothing to choose from, and the checked forms say so.
-/

namespace ShardStore

/-- The bucket count where none is given. -/
def defaultBuckets : UInt16 := 1024

/-- The bucket of a hash: the remainder of its leading two bytes. -/
def Hash.bucket (h : Hash) (buckets : UInt16) : UInt16 := h.leading % buckets

/-- The bucket of a number: its remainder. -/
def numberBucket (key buckets : UInt64) : UInt64 := key % buckets

/-- Routing was asked for with no buckets. -/
inductive RoutingError where
  | noBuckets
deriving DecidableEq

/-- What is said when there are no buckets. -/
def RoutingError.message : RoutingError → String
  | .noBuckets => "attempt to calculate the remainder with a divisor of zero"

/-- The bucket of a hash, provided there are buckets. -/
def Hash.bucket? (h : Hash) (buckets : UInt16) : Except RoutingError UInt16 :=
  if buckets = 0 then .error .noBuckets else .ok (h.bucket buckets)

/-- The bucket of a number, provided there are buckets. -/
def numberBucket? (key buckets : UInt64) : Except RoutingError UInt64 :=
  if buckets = 0 then .error .noBuckets else .ok (numberBucket key buckets)

end ShardStore
