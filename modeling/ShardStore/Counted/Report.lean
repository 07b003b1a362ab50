import ShardStore.Counted.Sharded
import ShardStore.Log.Event

/-!
# Reports of sharded counted stores

The event of making a sharded counted store.
-/

namespace ShardStore.CountedShards

/-- Reported when a map was made for about `hint` entries. -/
def madeEvent {τ : Type} (m : CountedShards τ) (hint : Nat) : Event where
  level := .debug
  target := "txmap::txmap::single_writer"
  message := "single-writer split map constructed"
  fields :=
    [("component", .text "single_writer_map"), ("event", .text "constructed"),
      ("buckets", .number m.buckets.toNat), ("per_bucket", .number (share hint m.buckets))]

end ShardStore.CountedShards
