import Mathlib.Data.List.Nodup
import Mathlib.Data.Set.Card
import ShardStore.Proofs.Sharded.Step

/-!
# Where hashes are

As long as nothing is put into a slot by number that belongs elsewhere, every hash is in the slot of its bucket. A hash is
then in one slot only, the slot behind the last bucket is empty, and looking at one slot is looking at the whole map.
-/

namespace ShardStore

namespace Sharded

variable {τ : Type} {m : Sharded τ} [Table τ Hash UInt64]

/-- Every hash is in the slot of its bucket. -/
def Routed (m : Sharded τ) : Prop := ∀ b h v, m.cell? b h = some (some v) → m.bucketFor h = b

/-- What holds of a sharded map whose hashes are where they belong. -/
structure WellPlaced (m : Sharded τ) : Prop where
  /-- A slot has no hash twice. -/
  distinct : ∀ b s, m.slot? b = some s → s.keys.Nodup
  /-- A slot has only hashes of its bucket. -/
  routed : ∀ b s, m.slot? b = some s → ∀ h ∈ s.keys, m.bucketFor h = b
  /-- The slot behind the last bucket is empty. -/
  spare : ∀ s, m.slot? m.buckets = some s → s.keys = []
  /-- No hash is in two slots. -/
  apart : ∀ b c s t h, m.slot? b = some s → m.slot? c = some t → h ∈ s.keys → h ∈ t.keys → b = c
  keys_nodup : m.keys.Nodup
  contains_iff : ∀ h, m.contains h = true ↔ h ∈ m.keys
  /-- A look-up finds what is stored, in whatever slot. -/
  get?_iff : ∀ h v, m.get? h = some v ↔ ∃ b s, m.slot? b = some s ∧ (h, v) ∈ s.toList
  /-- The size is the number of different hashes in the slots. -/
  size_eq : m.size = {h | ∃ b s, m.slot? b = some s ∧ h ∈ s.keys}.ncard
  /-- The hashes are listed by bucket. -/
  ordered : (m.keys.map m.bucketFor).Pairwise (· ≤ ·)

omit [Table τ Hash UInt64] in
theorem not_bucketFor_eq_buckets (m : Sharded τ) (h : Hash) : m.bucketFor h ≠ m.buckets :=
  UInt16.ne_of_lt (m.bucketFor_lt h)

variable [LawfulTable τ]

theorem size_eq_length (m : Sharded τ) : m.size = m.toList.length := by
  have hstore : ∀ s ∈ m.live, s.size = s.toList.length := fun s _ => s.length_toList.symm
  rw [toList, List.length_flatMap, ← List.map_congr_left hstore]
  rfl

theorem length_keys (m : Sharded τ) : m.keys.length = m.size := by rw [keys_eq, List.length_map, size_eq_length]

omit [LawfulTable τ] in
theorem ncard_stored (m : Sharded τ) : {h | ∃ b s, m.slot? b = some s ∧ h ∈ s.keys}.ncard = m.keys.toFinset.card := by
  have hkeys : {h | ∃ b s, m.slot? b = some s ∧ h ∈ s.keys} = m.keys.toFinset := by
    ext h
    simp only [Set.mem_ofPred_eq, List.coe_toFinset, mem_keys_iff_slot]
  rw [hkeys, Set.ncard_coe_finset]

theorem Routed.of_mem_keys (hm : m.Routed) {b : UInt16} {s : Store τ} (hs : m.slot? b = some s) {h : Hash}
    (hh : h ∈ s.keys) : m.bucketFor h = b := by
  obtain ⟨v, hv⟩ := Option.isSome_iff_exists.1 ((s.mem_keys_iff h).1 hh)
  exact hm b h v (by rw [cell?, hs, Option.map_some, hv])

theorem Routed.get?_iff (hm : m.Routed) (h : Hash) (v : UInt64) : m.get? h = some v ↔ (h, v) ∈ m.toList := by
  rw [get?_eq_cell?, mem_toList_iff, Option.join_eq_some_iff]
  constructor
  · exact fun hv => ⟨_, hv⟩
  · rintro ⟨b, hv⟩
    rwa [hm b h v hv]

theorem Routed.keys_nodup (hm : m.Routed) : m.keys.Nodup := by
  rw [keys, List.nodup_flatMap]
  refine ⟨fun s _ => s.nodup_keys, pairwise_live fun b c s t hbc hs ht h hh hh' => ?_⟩
  rw [← hm.of_mem_keys hs hh, ← hm.of_mem_keys ht hh'] at hbc
  exact UInt16.lt_irrefl _ hbc

theorem Routed.ordered (hm : m.Routed) : (m.keys.map m.bucketFor).Pairwise (· ≤ ·) := by
  rw [keys, List.pairwise_map, List.pairwise_flatMap]
  constructor
  · intro s hs
    obtain ⟨b, hb⟩ := mem_live_iff.1 hs
    refine List.pairwise_of_forall_mem_list fun h hh h' hh' => ?_
    rw [hm.of_mem_keys hb hh, hm.of_mem_keys hb hh']
    exact UInt16.le_refl b
  · refine pairwise_live fun b c s t hbc hs ht h hh h' hh' => ?_
    rw [hm.of_mem_keys hs hh, hm.of_mem_keys ht hh']
    exact UInt16.le_of_lt hbc

theorem Routed.wellPlaced (hm : m.Routed) : m.WellPlaced where
  distinct b s _ := s.nodup_keys
  routed b s hs h hh := hm.of_mem_keys hs hh
  spare s hs := List.eq_nil_iff_forall_not_mem.2 fun h hh => m.not_bucketFor_eq_buckets h (hm.of_mem_keys hs hh)
  apart b c s t h hs ht hh hh' := (hm.of_mem_keys hs hh).symm.trans (hm.of_mem_keys ht hh')
  keys_nodup := hm.keys_nodup
  contains_iff h := by
    rw [contains_eq, Option.isSome_iff_exists, keys_eq, List.mem_map]
    simp only [hm.get?_iff]
    grind
  get?_iff h v := by rw [hm.get?_iff, mem_toList_iff_slot]
  size_eq := by rw [ncard_stored, List.toFinset_card_of_nodup hm.keys_nodup, length_keys]
  ordered := hm.ordered

/-! ## What keeps hashes where they belong -/

theorem routed_withBuckets (hint : Nat) (n : UInt16) : (withBuckets hint n : Sharded τ).Routed := by
  intro b h v hcell
  rw [cell?, slot?_withBuckets] at hcell
  split at hcell
  · rw [Option.map_some, Store.get?_withCapacity] at hcell
    cases hcell
  · cases hcell

theorem Routed.step (hm : m.Routed) (op : MapOp) : (op.step m).2.Routed := by
  refine step_keeps (fun m op h hsingle hm b k v hcell => ?_) op m hm
  rw [bucketFor, buckets_step]
  rw [cell?_step m hsingle] at hcell
  split at hcell
  · next hsame => rw [← hsame.2, ← hsame.1]; rfl
  · exact hm b k v hcell

theorem Routed.putAllIn (hm : m.Routed) {b : UInt16} {hs : List Hash} (hroute : ∀ h ∈ hs, m.bucketFor h = b)
    (v : UInt64) : (m.putAllIn b hs v).2.Routed := by
  intro c k w hcell
  have hbuckets : (m.putAllIn b hs v).2.buckets = m.buckets := ShardedOp.buckets_step m (.putAllIn b hs v)
  rw [bucketFor, hbuckets]
  rw [cell?_putAllIn] at hcell
  split at hcell
  · next hc =>
      subst hc
      obtain ⟨s, hs', hvalue⟩ := Option.map_eq_some_iff.1 hcell
      split at hvalue
      · next hadded => exact hroute k (s.added_subset hs v hadded)
      · exact hm b k w (by rw [cell?, hs', Option.map_some, hvalue])
  · exact hm c k w hcell

omit [LawfulTable τ] in
theorem Routed.removeBucket (hm : m.Routed) (b : UInt16) : (m.removeBucket b).2.Routed := by
  intro c k v hcell
  have hbuckets : (m.removeBucket b).2.buckets = m.buckets := ShardedOp.buckets_step m (.removeBucket b)
  rw [bucketFor, hbuckets]
  rw [cell?_removeBucket] at hcell
  split at hcell
  · cases hcell
  · exact hm c k v hcell

end Sharded

/-- What an operation puts into a slot by number belongs there. -/
def ShardedOp.RespectsRouting (buckets : UInt16) : ShardedOp → Prop
  | .putAllIn b hs _ => ∀ h ∈ hs, h.bucket buckets = b
  | _ => True

namespace ShardedOp

variable {τ : Type} [Table τ Hash UInt64] [LawfulTable τ]

theorem routed_step {m : Sharded τ} (hm : m.Routed) {op : ShardedOp} (hop : op.RespectsRouting m.buckets) :
    (op.step m).2.Routed := by
  cases op with
  | map op => exact hm.step op
  | putAllIn b hs v => exact hm.putAllIn hop v
  | removeBucket b => exact hm.removeBucket b
  | flatten => exact hm

/-- A run from an empty map that puts nothing where it does not belong keeps the number of buckets and slots, and leaves
every hash in the slot of its bucket, with all that follows. -/
theorem run_wellPlaced (hint : Nat) (n : UInt16) (ops : List ShardedOp)
    (hops : ∀ op ∈ ops, op.RespectsRouting (atLeastOne n)) :
    let m := (run (Sharded.withBuckets hint n : Sharded τ) ops).2
    m.buckets = atLeastOne n ∧ m.slots.toList.length = (atLeastOne n).toNat + 1 ∧ m.WellPlaced := by
  intro m
  have hkept : m.buckets = atLeastOne n ∧ m.Routed := by
    refine run_keeps (P := fun m => m.buckets = atLeastOne n ∧ m.Routed) (fun op hop m hm => ?_)
      ⟨rfl, Sharded.routed_withBuckets hint n⟩
    exact ⟨(buckets_step m op).trans hm.1, routed_step hm.2 (hm.1 ▸ hops op hop)⟩
  exact ⟨hkept.1, by rw [Vector.length_toList, hkept.1], hkept.2.wellPlaced⟩

/-- A batch by number, a batch that stops in the middle, a slot that is taken out, and a hash that comes back. -/
theorem wellPlaced_after_removal :
    let a := Hash.ofBytes [0, 2]
    let b := Hash.ofBytes [0, 1]
    let ops : List ShardedOp :=
      [.putAllIn 1 [b] 7, .map (.putAll [a, b] 1), .removeBucket 0, .map (.delete b), .map (.put b 8)]
    (∀ op ∈ ops, op.RespectsRouting (atLeastOne 2)) ∧
      (run (Sharded.withBuckets 4 2 : Sharded (EntryList Hash UInt64)) ops).2.WellPlaced := by
  intro a b ops
  have hops : ∀ op ∈ ops, op.RespectsRouting (atLeastOne 2) := by
    simp only [ops, List.forall_mem_cons, RespectsRouting, List.not_mem_nil, false_imp_iff, implies_true, and_true]
    decide
  exact ⟨hops, (run_wellPlaced 4 2 ops hops).2.2⟩

end ShardedOp

end ShardStore
