import ShardStore.Proofs.Sharded.Placement

/-!
# What a slot adds to the whole

The entries of a sharded map are those of one slot together with those of all others. Whatever work on a slot changes in its
store, it changes in the whole map, and nothing else.
-/

namespace ShardStore.Sharded

variable {τ : Type} {m : Sharded τ} {b : UInt16}

theorem live_withSlot_perm (hb : b ≤ m.buckets) (o : Option (Store τ)) :
    (m.withSlot b o).live.Perm (o.toList ++ (m.slots.toList.eraseIdx b.toNat).filterMap id) := by
  have hlt : b.toNat < m.slots.toList.length := by
    rw [Vector.length_toList]
    exact (m.lt_slots_iff b).2 hb
  have hset := (List.set_perm_cons_eraseIdx hlt o).filterMap id
  rw [live, withSlot, Vector.toList_setIfInBounds]
  cases o with
  | none => exact hset
  | some s => exact hset

variable [Table τ Hash UInt64]

theorem toList_withSlot_perm (hb : b ≤ m.buckets) (s : Store τ) :
    (m.withSlot b (some s)).toList.Perm (s.toList ++ (m.withSlot b none).toList) := by
  have hwith := (live_withSlot_perm hb (some s)).flatMap_right Store.toList
  have hleft := (live_withSlot_perm hb none).flatMap_right Store.toList
  rw [List.flatMap_append, Option.toList_some, List.flatMap_singleton] at hwith
  exact hwith.trans (hleft.symm.append_left _)

/-- The entries of a map are those of one of its slots and those that are left when it is taken out. -/
theorem toList_perm_of_slot {s : Store τ} (hs : m.slot? b = some s) :
    m.toList.Perm (s.toList ++ (m.withSlot b none).toList) := by
  have hall := toList_withSlot_perm (le_buckets hs) s
  rwa [withSlot_eq_self hs] at hall

theorem size_eq_of_slot [LawfulTable τ] {s : Store τ} (hs : m.slot? b = some s) :
    m.size = s.size + (m.withSlot b none).size := by
  rw [size_eq_length, size_eq_length, (toList_perm_of_slot hs).length_eq, List.length_append, s.length_toList]

end ShardStore.Sharded
