import ShardStore.Log.Event
import ShardStore.Sharded.Basic

/-!
# Reports of sharded stores

The events of making a sharded store and of flattening one.
-/

namespace ShardStore.Sharded

variable {τ : Type} [Table τ Hash UInt64]

/-- An event of a sharded store. -/
private def debugEvent (message event : String) (fields : List (String × FieldValue)) : Event where
  level := .debug
  target := "txmap::txmap::split"
  message
  fields := [("component", .text "split_map"), ("event", .text event)] ++ fields

omit [Table τ Hash UInt64] in
/-- Reported when a map was made for about `hint` entries. -/
def madeEvent (m : Sharded τ) (hint : Nat) : Event :=
  debugEvent "split map constructed" "constructed"
    [("buckets", .number m.buckets.toNat), ("per_bucket", .number (share hint m.buckets))]

/-- Reported when a map was flattened into one store. -/
def flattenedEvent (flat : Store τ) : Event :=
  debugEvent "split map flattened" "flattened" [("length", .number flat.size)]

end ShardStore.Sharded
