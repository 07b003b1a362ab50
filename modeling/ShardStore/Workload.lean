import ShardStore.Counted.Sharded
import ShardStore.Sharded.Basic

/-!
# Workloads

Filling a store by several workers and looking everything up again. Each worker gets a chunk of the work; what is counted
in the end does not depend on how the chunks are worked off.
-/

namespace ShardStore

/-- The items in chunks of a size, the last one possibly smaller. -/
def chunks {α : Type} (size : Nat) (items : List α) : List (List α) :=
  if size = 0 then []
  else
    match items with
    | [] => []
    | a :: rest => (a :: rest.take (size - 1)) :: chunks size (rest.drop (size - 1))
termination_by items.length
decreasing_by rw [List.length_drop, List.length_cons]; omega

/-- The size of the chunks that share `items` items among `workers` workers; at least one. -/
def chunkSize (items workers : Nat) : Nat := max 1 ((items + workers - 1) / workers)

/-! ## Sharded stores -/

/-- A put of the fill: a hash with its value. -/
abbrev Put := Hash × UInt64

/-- The puts of each worker: the hashes of its chunk, each with its place in the chunk. -/
def splitPuts (hashes : List Hash) (workers : Nat) : List (List Put) :=
  (chunks (chunkSize hashes.length workers) hashes).map fun chunk =>
    chunk.zipIdx.map fun (h, i) => (h, UInt64.ofNat i)

/-- The state of a fill: the store, and how many puts were refused. -/
structure Fill (σ : Type) where
  store : σ
  refused : Nat := 0

/-- Carries out a put and counts it if it is refused. -/
def Fill.put {τ : Type} [Table τ Hash UInt64] (fill : Fill (Sharded τ)) (p : Put) : Fill (Sharded τ) :=
  let ⟨store, refused⟩ := fill
  match store.put p.1 p.2 with
  | (.ok (), store) => ⟨store, refused⟩
  | (.error _, store) => ⟨store, refused + 1⟩

/-- What a workload comes to. -/
structure WorkloadReport where
  /-- How many puts were refused. -/
  refused : Nat
  /-- How many entries there are. -/
  length : Nat
  /-- How many items were found again. -/
  found : Nat
deriving DecidableEq

/-- Fills a sharded store with hashes, worker by worker, and looks every one up. -/
def runSplit {τ : Type} [Table τ Hash UInt64] (m : Sharded τ) (hashes : List Hash) (workers : Nat) : WorkloadReport :=
  let filled := (splitPuts hashes workers).flatten.foldl Fill.put { store := m }
  { refused := filled.refused
    length := filled.store.size
    found := hashes.countP filled.store.contains }

/-! ## Sharded counted stores -/

/-- The keys of a bucket: every `step`-th number from `key` on, below `items`. -/
def bucketKeys (items step key : Nat) : List Nat :=
  if 0 < step ∧ key < items then key :: bucketKeys items step (key + step) else []
termination_by items - key
decreasing_by omega

/-- The buckets that each worker fills. -/
def writerChunks (buckets workers : Nat) : List (List Nat) := chunks (chunkSize buckets workers) (List.range buckets)

/-- Puts a key through the writer of a bucket, as its own value, and counts it if it is refused. -/
def Fill.putNumber {τ : Type} [Table τ UInt64 UInt64] (fill : Fill (CountedShards τ)) (p : Nat × Nat) :
    Fill (CountedShards τ) :=
  let ⟨store, refused⟩ := fill
  if h : p.1 < store.buckets.toNat then
    let key := UInt64.ofNat p.2
    match store.onWriter ⟨p.1, h⟩ (·.put key key) with
    | (.ok (), store) => ⟨store, refused⟩
    | (.error _, store) => ⟨store, refused + 1⟩
  else ⟨store, refused⟩

/-- The puts of a fill in order: for each bucket of each worker, the keys of the bucket. -/
def countedPuts (items buckets workers : Nat) : List (Nat × Nat) :=
  (writerChunks buckets workers).flatten.flatMap fun bucket =>
    (bucketKeys items buckets bucket).map fun key => (bucket, key)

/-- Fills a sharded counted store with the numbers below `items`, bucket by bucket, and looks every one up. -/
def runSingleWriter {τ : Type} [Table τ UInt64 UInt64] (m : CountedShards τ) (items workers : Nat) : WorkloadReport :=
  let filled := (countedPuts items m.buckets.toNat workers).foldl Fill.putNumber { store := m }
  { refused := filled.refused
    length := filled.store.size
    found := (List.range items).countP fun key =>
      filled.store.get? (UInt64.ofNat key) = some (UInt64.ofNat key) }

end ShardStore
