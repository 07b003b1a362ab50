import Mathlib.Algebra.Order.BigOperators.Group.List
import Mathlib.Data.Set.Card
import ShardStore.Proofs.Counted.Shards

/-!
# Where numbers are

However a split map of numbers is filled, through the map or through the writers of its buckets, every number is in the store of
its bucket. The store behind the last bucket stays empty, no number is in two stores, and what the stores have counted is the
number of their entries.
-/

namespace ShardStore

namespace CountedShards

variable {τ : Type} {m : CountedShards τ} {b : UInt64} {s : Counted τ}

theorem mem_stores_iff : s ∈ m.stores.toList ↔ ∃ b, m.store? b = some s := by
  constructor
  · intro hmem
    obtain ⟨i, hi, rfl⟩ := List.mem_iff_getElem.1 hmem
    rw [Vector.length_toList] at hi
    rw [Vector.getElem_toList]
    exact ⟨.ofNat i, store?_ofNat hi⟩
  · rintro ⟨b, hs⟩
    obtain ⟨hlt, rfl⟩ := Vector.getElem?_eq_some_iff.1 hs
    exact Vector.mem_toList_iff.2 (Vector.getElem_mem hlt)

theorem bucketFor_ne_buckets (m : CountedShards τ) (key : UInt64) : m.bucketFor key ≠ m.buckets := by
  intro hsame
  have hlt := m.bucketFor_lt key
  rw [hsame] at hlt
  exact Nat.lt_irrefl _ hlt

variable [Table τ UInt64 UInt64]

theorem get?_eq (m : CountedShards τ) (key : UInt64) : m.get? key = (m.store? (m.bucketFor key)).bind (·.get? key) := by
  rw [store?_bucketFor]
  rfl

theorem bucketFor_put (m : CountedShards τ) (key value k : UInt64) :
    (m.put key value).2.bucketFor k = m.bucketFor k := by
  rw [bucketFor, buckets_put, bucketFor]

theorem mem_keys_iff {key : UInt64} : key ∈ m.keys ↔ ∃ b s, m.store? b = some s ∧ key ∈ s.keys := by
  rw [keys, List.mem_flatMap]
  simp only [mem_stores_iff]
  constructor
  · rintro ⟨s, ⟨b, hs⟩, hkey⟩
    exact ⟨b, s, hs, hkey⟩
  · rintro ⟨b, s, hs, hkey⟩
    exact ⟨s, ⟨b, hs⟩, hkey⟩

theorem entries_le_of_store? (hs : m.store? b = some s) : s.entries ≤ m.entries :=
  List.le_sum_of_mem (List.mem_map.2 ⟨s, mem_stores_iff.2 ⟨b, hs⟩, rfl⟩)

theorem Counts.size_eq_of_store? (hm : m.Counts) (hfew : m.entries < UInt64.size) (hs : m.store? b = some s) :
    s.size = s.entries :=
  (hm b s hs).size_eq (Nat.lt_of_le_of_lt (entries_le_of_store? hs) hfew)

theorem Counts.size_eq (hm : m.Counts) (hfew : m.entries < UInt64.size) : m.size = m.entries := by
  have hsizes : m.stores.toList.map Counted.size = m.stores.toList.map Counted.entries := by
    refine List.map_congr_left fun s hs => ?_
    obtain ⟨b, hs⟩ := mem_stores_iff.1 hs
    exact hm.size_eq_of_store? hfew hs
  rw [size, entries, hsizes]

/-- What holds of a split map of numbers, however it was filled. -/
structure WellFilled (m : CountedShards τ) : Prop where
  /-- A store has no key twice. -/
  distinct : ∀ b s, m.store? b = some s → s.keys.Nodup
  /-- A store has only keys of its bucket. -/
  routed : ∀ b s, m.store? b = some s → ∀ key ∈ s.keys, key % m.buckets = b
  /-- There is a store behind the last bucket, and it is empty. -/
  spare : ∃ s, m.store? m.buckets = some s ∧ s.keys = []
  /-- No key is in two stores. -/
  apart : ∀ b c s t key, m.store? b = some s → m.store? c = some t → key ∈ s.keys → key ∈ t.keys → b = c
  /-- What a store has counted is the number of its entries. -/
  counted : ∀ b s, m.store? b = some s → s.size = s.entries
  /-- The size is the number of different keys in the stores. -/
  size_eq : m.size = {key | ∃ b s, m.store? b = some s ∧ key ∈ s.keys}.ncard

/-! ## Every number is in the store of its bucket -/

/-- Each key is in the store of its bucket. -/
def Routed (m : CountedShards τ) : Prop := ∀ b s, m.store? b = some s → ∀ key ∈ s.keys, m.bucketFor key = b

variable [LawfulTable τ]

theorem contains_eq (m : CountedShards τ) (key : UInt64) : m.contains key = (m.get? key).isSome :=
  (m.storeFor key).contains_eq key

theorem put_fst (m : CountedShards τ) (key value : UInt64) :
    (m.put key value).1 = if (m.get? key).isSome then .error (.present (toString key)) else .ok () := by
  rw [put_eq, Counted.put_fst]
  rfl

theorem get?_put (m : CountedShards τ) (key value k : UInt64) :
    (m.put key value).2.get? k = if key = k then some ((m.get? key).getD value) else m.get? k := by
  rw [get?_eq, bucketFor_put, store?_put]
  by_cases hk : key = k
  · subst hk
    rw [if_pos rfl, if_pos rfl, Option.bind_some, Counted.get?_put, if_pos rfl]
    rfl
  · rw [if_neg hk, get?_eq m k]
    split
    · next hb => rw [Option.bind_some, Counted.get?_put, if_neg hk, ← hb, store?_bucketFor, Option.bind_some]
    · rfl

theorem keys_of_withBuckets {hint : Nat} {n : UInt64} (hs : (withBuckets hint n : CountedShards τ).store? b = some s) :
    s.keys = [] := by
  rw [store?_withBuckets] at hs
  split at hs
  · cases hs
    exact Counted.keys_withCapacity _
  · cases hs

theorem entries_withBuckets (hint : Nat) (n : UInt64) : (withBuckets hint n : CountedShards τ).entries = 0 := by
  rw [entries_eq_length, List.length_eq_zero_iff, List.eq_nil_iff_forall_not_mem]
  intro key hkey
  obtain ⟨b, s, hs, hkey⟩ := mem_keys_iff.1 hkey
  rw [keys_of_withBuckets hs] at hkey
  cases hkey

theorem routed_withBuckets (hint : Nat) (n : UInt64) : (withBuckets hint n : CountedShards τ).Routed := by
  intro b s hs key hkey
  rw [keys_of_withBuckets hs] at hkey
  cases hkey

theorem Routed.put (hm : m.Routed) (key value : UInt64) : (m.put key value).2.Routed := by
  intro b s hs k hk
  rw [bucketFor_put]
  rw [store?_put] at hs
  split at hs
  · next hb =>
      cases hs
      rw [Counted.mem_keys_iff, Counted.get?_put] at hk
      split at hk
      · next hsame => exact hsame ▸ hb
      · exact hm b _ (hb ▸ m.store?_bucketFor key) k ((Counted.mem_keys_iff _ _).2 hk)
  · exact hm b s hs k hk

theorem Routed.mem_keys_iff (hm : m.Routed) (key : UInt64) : key ∈ m.keys ↔ (m.get? key).isSome = true := by
  rw [CountedShards.mem_keys_iff, get?_eq, store?_bucketFor, Option.bind_some, ← Counted.mem_keys_iff]
  constructor
  · rintro ⟨b, s, hs, hkey⟩
    have hb : m.bucketFor key = b := hm b s hs key hkey
    rw [← hb, store?_bucketFor] at hs
    cases hs
    exact hkey
  · exact fun hkey => ⟨_, _, m.store?_bucketFor key, hkey⟩

theorem Routed.keys_nodup (hm : m.Routed) : m.keys.Nodup := by
  rw [keys, List.nodup_flatMap]
  refine ⟨fun s _ => s.nodup_keys, List.pairwise_iff_getElem.2 fun i j hi hj hij key hkey hkey' => ?_⟩
  rw [Vector.length_toList] at hi hj
  rw [Vector.getElem_toList] at hkey hkey'
  have hb := hm _ _ (store?_ofNat hi) key hkey
  have hc := hm _ _ (store?_ofNat hj) key hkey'
  have hsame := congrArg UInt64.toNat (hb.symm.trans hc)
  rw [toNat_ofNat hi, toNat_ofNat hj] at hsame
  omega

/-! ## What follows -/

theorem wellFilled (hr : m.Routed) (hc : m.Counts) (hfew : m.entries < UInt64.size) : m.WellFilled where
  distinct b s _ := s.nodup_keys
  routed b s hs key hkey := hr b s hs key hkey
  spare := by
    have hlt : m.buckets.toNat < m.buckets.toNat + 1 := Nat.lt_succ_self _
    refine ⟨_, Vector.getElem?_eq_getElem hlt, List.eq_nil_iff_forall_not_mem.2 fun key hkey => ?_⟩
    exact m.bucketFor_ne_buckets key (hr _ _ (Vector.getElem?_eq_getElem hlt) key hkey)
  apart b c s t key hs ht hkey hkey' := (hr b s hs key hkey).symm.trans (hr c t ht key hkey')
  counted b s hs := hc.size_eq_of_store? hfew hs
  size_eq := by
    have hkeys : {key | ∃ b s, m.store? b = some s ∧ key ∈ s.keys} = m.keys.toFinset := by
      ext key
      simp only [Set.mem_ofPred_eq, List.coe_toFinset, mem_keys_iff]
    rw [hkeys, Set.ncard_coe_finset, List.toFinset_card_of_nodup hr.keys_nodup, ← entries_eq_length, hc.size_eq hfew]

end CountedShards
end ShardStore
