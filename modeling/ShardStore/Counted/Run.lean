import ShardStore.Counted.Sharded

/-!
# Runs of a counted store

The operations on a single counted store, and their runs. They answer in the form of those on the whole map.
-/

namespace ShardStore.Counted

/-- An operation on a counted store with its arguments. -/
inductive Op where
  | put (key value : UInt64)
  | get (key : UInt64)
  | contains (key : UInt64)
  | size

namespace Op

variable {τ : Type} [Table τ UInt64 UInt64]

/-- Carries out one operation. -/
def step (s : Counted τ) : Op → CountedAnswer × Counted τ
  | .put key value => let (o, s) := s.put key value; (.outcome o, s)
  | .get key => (.value (s.get? key), s)
  | .contains key => (.truth (s.contains key), s)
  | .size => (.count s.size, s)

/-- Carries out operations in order. -/
def run (s : Counted τ) : List Op → List CountedAnswer × Counted τ
  | [] => ([], s)
  | op :: ops =>
    let (answer, s) := step s op
    let (answers, s) := run s ops
    (answer :: answers, s)

end Op

end ShardStore.Counted
