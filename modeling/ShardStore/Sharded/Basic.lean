import ShardStore.Routing
import ShardStore.Slot
import ShardStore.Store.Basic

/-!
# Sharded stores

A map of hashes split over numbered slots, each a store of its own. A hash is kept in the slot of its bucket, and every
operation on one hash looks at that slot alone. With `n` buckets there are `n + 1` slots: routing reaches the first `n`,
and the last takes only what is put there by number. A slot can be taken out, and then its hashes are refused.
-/

namespace ShardStore

/-- A map of hashes split over the slots of its buckets. -/
structure Sharded (τ : Type) where
  /-- The number of buckets. -/
  buckets : UInt16
  positive : 0 < buckets
  /-- The slots, one more than buckets; one that was taken out is `none`. -/
  slots : Vector (Option (Store τ)) (buckets.toNat + 1)

/-- A bucket count, with zero raised to one. -/
def atLeastOne (n : UInt16) : UInt16 := if n = 0 then 1 else n

theorem atLeastOne_pos (n : UInt16) : 0 < atLeastOne n := by
  unfold atLeastOne
  split
  · decide
  · next h => exact UInt16.pos_iff_ne_zero.2 h

namespace Sharded

/-- The number of entries that each slot should expect: an even share, rounded up. -/
def share (hint : Nat) (buckets : UInt16) : Nat := (hint + buckets.toNat - 1) / buckets.toNat

variable {τ : Type} [Table τ Hash UInt64]

/-- The empty map of `n` buckets for about `hint` entries; zero buckets are raised to one. -/
def withBuckets (hint : Nat) (n : UInt16) : Sharded τ where
  buckets := atLeastOne n
  positive := atLeastOne_pos n
  slots := Vector.replicate _ (some (Store.withCapacity (share hint (atLeastOne n))))

/-- The bytes of a slot: the table of the store, its lock, and whether the store was taken out. -/
def slotBytes (τ : Type) [Footprint τ] : Nat := Footprint.bytes τ + 8 + 8

/-- Makes the empty map of `n` buckets for about `hint` entries, with all sizes calculated in words. -/
def make? [Footprint τ] (hint : UInt64) (n : UInt16) : Except MakeFault (Sharded τ) := do
  let buckets := atLeastOne n
  let share ← quotientUp? hint.toNat buckets.toNat
  let _ ← sum? buckets.toNat 1
  let slots ← row? (buckets.toNat + 1) (slotBytes τ) ((Store.make? share).map some)
  return { buckets, positive := atLeastOne_pos n, slots }

/-- Makes the empty map of the default number of buckets. -/
def makeDefault? [Footprint τ] (hint : UInt64) : Except MakeFault (Sharded τ) := make? hint defaultBuckets

omit [Table τ Hash UInt64] in
/-- The bucket of a hash. -/
def bucketFor (m : Sharded τ) (h : Hash) : UInt16 := h.bucket m.buckets

omit [Table τ Hash UInt64] in
/-- The store in a slot, unless there is no such slot or it was taken out. -/
def slot? (m : Sharded τ) (bucket : UInt16) : Option (Store τ) := (m.slots[bucket.toNat]?).join

omit [Table τ Hash UInt64] in
/-- What is said of a slot that is not there. -/
def missing (m : Sharded τ) (bucket : UInt16) : StoreError := .noBucket bucket.toUInt64 m.buckets.toUInt64

omit [Table τ Hash UInt64] in
/-- The stores of the slots that were not taken out, in order. -/
def live (m : Sharded τ) : List (Store τ) := m.slots.toList.filterMap id

omit [Table τ Hash UInt64] in
/-- Works on the store of one slot; without such a store nothing happens. -/
def onSlot {α : Type} (m : Sharded τ) (bucket : UInt16) (work : Store τ → α × Store τ) : Option α × Sharded τ :=
  if h : bucket.toNat < m.buckets.toNat + 1 then
    let (answer, slots) := workAt m.slots ⟨bucket.toNat, h⟩ none fun
      | none => (none, none)
      | some store =>
        let (answer, store) := work store
        (some answer, some store)
    (answer, { m with slots })
  else (none, m)

omit [Table τ Hash UInt64] in
/-- Works on the store of one slot; a missing slot is an error. -/
def tryOnSlot (m : Sharded τ) (bucket : UInt16) (work : Store τ → Outcome × Store τ) : Outcome × Sharded τ :=
  let missing := m.missing bucket
  match m.onSlot bucket work with
  | (some outcome, m) => (outcome, m)
  | (none, m) => (.error missing, m)

/-- Adds a hash that is not there. -/
def put (m : Sharded τ) (h : Hash) (v : UInt64) : Outcome × Sharded τ :=
  m.tryOnSlot (m.bucketFor h) (·.put h v)

/-- Adds hashes in order; the first that is refused ends the batch, and the error names its bucket. -/
def putAll (m : Sharded τ) : List Hash → UInt64 → Outcome × Sharded τ
  | [], _ => (.ok (), m)
  | h :: hs, v =>
    let bucket := m.bucketFor h
    match m.put h v with
    | (.ok (), m) => m.putAll hs v
    | (.error e, m) => (.error (.batch bucket.toUInt64 e), m)

/-- Adds hashes to the slot `bucket` whatever their own buckets are; those that belong elsewhere are not found again. -/
def putAllIn (m : Sharded τ) (bucket : UInt16) (hs : List Hash) (v : UInt64) : Outcome × Sharded τ :=
  m.tryOnSlot bucket (·.putAll hs v)

/-- The value of a hash. -/
def get? (m : Sharded τ) (h : Hash) : Option UInt64 := (m.slot? (m.bucketFor h)).bind (·.get? h)

/-- Whether a hash is in the slot of its bucket. -/
def contains (m : Sharded τ) (h : Hash) : Bool := (m.slot? (m.bucketFor h)).any (·.contains h)

/-- Gives a hash that is there a new value. -/
def set (m : Sharded τ) (h : Hash) (v : UInt64) : Outcome × Sharded τ :=
  m.tryOnSlot (m.bucketFor h) (·.set h v)

/-- Gives a hash a new value if it is there, and answers whether it was. -/
def setIfPresent (m : Sharded τ) (h : Hash) (v : UInt64) : Bool × Sharded τ :=
  let (answer, m) := m.onSlot (m.bucketFor h) (·.setIfPresent h v)
  (answer.getD false, m)

/-- Adds a hash if its slot is there and does not have it, and answers whether it did. -/
def setIfAbsent (m : Sharded τ) (h : Hash) (v : UInt64) : Bool × Sharded τ :=
  let (answer, m) := m.onSlot (m.bucketFor h) (·.setIfAbsent h v)
  (answer.getD false, m)

/-- Takes out a hash that is there; a missing slot is reported before a missing hash. -/
def delete (m : Sharded τ) (h : Hash) : Outcome × Sharded τ :=
  m.tryOnSlot (m.bucketFor h) fun store =>
    if store.contains h then store.delete h else (.error (.absent h.toText), store)

/-- The number of entries in all slots. -/
def size (m : Sharded τ) : Nat := (m.live.map Store.size).foldr (· + ·) 0

/-- The hashes of all slots, slot by slot. -/
def keys (m : Sharded τ) : List Hash := m.live.flatMap Store.keys

/-- Visits the entries slot by slot. A visitor that asks to stop leaves the slot, and goes on with the next one. -/
def walk {σ : Type} (m : Sharded τ) (visit : σ → Entry → σ × Signal) (state : σ) : σ :=
  m.live.foldl (fun state store => store.walk visit state) state

instance : TransactionMap (Sharded τ) where
  put := put
  putAll := putAll
  get? := get?
  contains := contains
  set := set
  setIfPresent := setIfPresent
  setIfAbsent := setIfAbsent
  delete := delete
  size := size
  keys := keys
  walk := walk

/-- All entries in one store; of a hash that stands in several slots the first one counts. -/
def flatten (m : Sharded τ) : Store τ :=
  (m.live.flatMap Store.toList).foldl (fun out e => (out.put e.1 e.2).2) (Store.withCapacity m.size)

omit [Table τ Hash UInt64] in
/-- Takes a slot out with its store, for good. -/
def removeBucket (m : Sharded τ) (bucket : UInt16) : Option (Store τ) × Sharded τ :=
  if h : bucket.toNat < m.buckets.toNat + 1 then
    let (store, slots) := takeOut m.slots ⟨bucket.toNat, h⟩ none
    (store, { m with slots })
  else (none, m)

end Sharded

/-- An operation on a sharded map with its arguments. -/
inductive ShardedOp where
  | map (op : MapOp)
  | putAllIn (bucket : UInt16) (hs : List Hash) (v : UInt64)
  | removeBucket (bucket : UInt16)
  | flatten

/-- The answer to an operation on a sharded map. -/
inductive ShardedAnswer (τ : Type) where
  | map (answer : MapAnswer)
  /-- The store that was taken out or made. -/
  | store (s : Option (Store τ))

namespace ShardedOp

variable {τ : Type} [Table τ Hash UInt64]

/-- Carries out one operation. -/
def step (m : Sharded τ) : ShardedOp → ShardedAnswer τ × Sharded τ
  | .map op => let (answer, m) := op.step m; (.map answer, m)
  | .putAllIn bucket hs v => let (o, m) := m.putAllIn bucket hs v; (.map (.outcome o), m)
  | .removeBucket bucket => let (s, m) := m.removeBucket bucket; (.store s, m)
  | .flatten => (.store (some m.flatten), m)

/-- Carries out operations in order. -/
def run (m : Sharded τ) : List ShardedOp → List (ShardedAnswer τ) × Sharded τ
  | [] => ([], m)
  | op :: ops =>
    let (answer, m) := step m op
    let (answers, m) := run m ops
    (answer :: answers, m)

end ShardedOp

end ShardStore
