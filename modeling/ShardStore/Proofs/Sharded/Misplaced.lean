import ShardStore.Proofs.Sharded.Contents
import ShardStore.Proofs.Sharded.Isolation

/-!
# Hashes where they do not belong

A hash that was put by number into a slot of another bucket, or behind the last one, is out of reach: no operation that goes
by routing sees it or moves it. It stays until its slot is taken out, and is counted, listed and visited meanwhile.
-/

namespace ShardStore

namespace Sharded

variable {τ : Type} {m : Sharded τ} [Table τ Hash UInt64]

/-! ## One slot -/

/-- An operation on one hash looks no further than the slot of the hash. -/
theorem step_reads_slot {m' : Sharded τ} {op : MapOp} {h : Hash} (hsingle : op.hash? = some h)
    (hbuckets : m'.buckets = m.buckets) (hslot : m'.slot? (m.bucketFor h) = m.slot? (m.bucketFor h)) :
    (op.step m').1 = (op.step m).1 ∧ (op.step m').2.slot? (m.bucketFor h) = (op.step m).2.slot? (m.bucketFor h) := by
  have hroute : m'.bucketFor h = m.bucketFor h := by rw [bucketFor, hbuckets, bucketFor]
  have hle' : m.bucketFor h ≤ m'.buckets := hroute ▸ m'.bucketFor_le h
  rw [step_eq m' hsingle, step_eq m hsingle, hroute, hslot, missing, missing, hbuckets]
  cases m.slot? (m.bucketFor h) with
  | none => exact ⟨rfl, hslot⟩
  | some s =>
      refine ⟨rfl, ?_⟩
      rw [slot?_withSlot_of_le hle', slot?_withSlot_of_le (m.bucketFor_le h), if_pos rfl, if_pos rfl]

variable [LawfulTable τ]

/-! ## Staying -/

/-- Slot `i` has the hash `k`, which belongs to another bucket, with the value `v`. -/
def HasMisplaced (m : Sharded τ) (i : UInt16) (k : Hash) (v : UInt64) : Prop :=
  m.bucketFor k ≠ i ∧ m.cell? i k = some (some v)

variable {i : UInt16} {k : Hash} {v : UInt64}

theorem HasMisplaced.step_map (hm : m.HasMisplaced i k v) (op : MapOp) : (op.step m).2.HasMisplaced i k v := by
  refine step_keeps (P := fun m => m.HasMisplaced i k v) (fun m op h hsingle hm => ?_) op m hm
  obtain ⟨hroute, hcell⟩ := hm
  refine ⟨by rwa [bucketFor, buckets_step], ?_⟩
  rw [cell?_step m hsingle, if_neg]
  · exact hcell
  · rintro ⟨hb, rfl⟩
    exact hroute hb

theorem HasMisplaced.putAllIn (hm : m.HasMisplaced i k v) (b : UInt16) (hs : List Hash) (w : UInt64) :
    (m.putAllIn b hs w).2.cell? i k = some (some v) := by
  obtain ⟨-, hcell⟩ := hm
  rw [cell?_putAllIn]
  split
  · next hb =>
      subst hb
      obtain ⟨s, hslot, hget⟩ := Option.map_eq_some_iff.1 hcell
      have hkept : k ∉ s.added hs w := fun hk => by
        rw [Store.get?_of_mem_added hk] at hget
        cases hget
      rw [hslot, Option.map_some, if_neg hkept, hget]
  · exact hcell

theorem HasMisplaced.step (hm : m.HasMisplaced i k v) {op : ShardedOp} (hop : op ≠ .removeBucket i) :
    (op.step m).2.HasMisplaced i k v := by
  cases op with
  | map op => exact hm.step_map op
  | putAllIn b hs w =>
      refine ⟨?_, hm.putAllIn b hs w⟩
      rw [bucketFor, ShardedOp.buckets_step]
      exact hm.1
  | removeBucket b =>
      have hb : b ≠ i := fun hb => hop (congrArg _ hb)
      refine ⟨?_, ?_⟩
      · rw [bucketFor, ShardedOp.buckets_step]
        exact hm.1
      · change (m.removeBucket b).2.cell? i k = _
        rw [cell?_removeBucket, if_neg hb]
        exact hm.2
  | flatten => exact hm

theorem HasMisplaced.run (hm : m.HasMisplaced i k v) {ops : List ShardedOp} (hops : .removeBucket i ∉ ops) :
    (ShardedOp.run m ops).2.HasMisplaced i k v :=
  ShardedOp.run_keeps (P := fun m => m.HasMisplaced i k v)
    (fun _ hop _ hm => hm.step fun heq => hops (heq ▸ hop)) hm

/-! ## The map without the entry -/

omit [LawfulTable τ] in
/-- The map without a hash in one slot. -/
def without (m : Sharded τ) (b : UInt16) (h : Hash) : Sharded τ :=
  m.withSlot b ((m.slot? b).map fun s => (s.delete h).2)

theorem cell?_without (m : Sharded τ) (b : UInt16) (h : Hash) (c : UInt16) (k : Hash) :
    (m.without b h).cell? c k = if b = c ∧ h = k then (m.cell? b h).map fun _ => none else m.cell? c k := by
  cases hs : m.slot? b with
  | none =>
      rw [without, hs, Option.map_none, withSlot_eq_self hs]
      split
      · next hsame => rw [← hsame.1, cell?, cell?, hs, Option.map_none, Option.map_none, Option.map_none]
      · rfl
  | some s =>
      rw [without, hs, Option.map_some, cell?, slot?_withSlot_of_le (le_buckets hs)]
      by_cases hb : b = c
      · subst hb
        rw [if_pos rfl, Option.map_some, s.get?_delete, cell?, cell?, hs]
        by_cases hk : h = k <;> simp [hk]
      · rw [if_neg hb, if_neg fun hsame => hb hsame.1, cell?]

theorem agreeOff_without (m : Sharded τ) (i : UInt16) (k : Hash) :
    AgreeOff (fun b h => b = i ∧ h = k) m (m.without i k) where
  buckets := rfl
  cells b h hoff := by
    rw [cell?_without, if_neg]
    rintro ⟨rfl, rfl⟩
    exact hoff ⟨rfl, rfl⟩

theorem toList_perm_without (hcell : m.cell? i k = some (some v)) :
    m.toList.Perm ((k, v) :: (m.without i k).toList) := by
  obtain ⟨s, hs, hget⟩ := Option.map_eq_some_iff.1 hcell
  have hstore : s.toList.Perm ((k, v) :: (s.delete k).2.toList) := by
    refine Table.toList_perm_cons (t := (s.delete k).2.table) (k := k) ?_ fun a => ?_
    · exact (s.get?_delete k k).trans (if_pos rfl)
    · have hleft : Table.get? (s.delete k).2.table a = if k = a then none else s.get? a := s.get?_delete k a
      rw [hleft]
      split
      · next ha => exact ha ▸ hget
      · rfl
  have hrest := toList_withSlot_perm (le_buckets hs) (s.delete k).2
  rw [without, hs, Option.map_some]
  calc m.toList
    _ |>.Perm (s.toList ++ (m.withSlot i none).toList) := toList_perm_of_slot hs
    _ |>.Perm ((k, v) :: ((s.delete k).2.toList ++ (m.withSlot i none).toList)) := hstore.append_right _
    _ |>.Perm ((k, v) :: (m.withSlot i (some (s.delete k).2)).toList) := hrest.symm.cons _

/-! ## Out of reach -/

/-- An operation on one hash reads and changes the slot of the hash only. So an entry in a slot that its hash does not belong
to has no part in any answer that goes by routing, now or later; it stays until its slot is taken out, and is counted, listed
and visited as one entry more. -/
theorem misplaced_out_of_reach (m : Sharded τ) :
    (∀ (op : MapOp) h, op.hash? = some h →
      (∀ m' : Sharded τ, m'.buckets = m.buckets → m'.slot? (m.bucketFor h) = m.slot? (m.bucketFor h) →
        (op.step m').1 = (op.step m).1 ∧
          (op.step m').2.slot? (m.bucketFor h) = (op.step m).2.slot? (m.bucketFor h)) ∧
      ∀ b, b ≠ m.bucketFor h → (op.step m).2.slot? b = m.slot? b) ∧
    ∀ i k v, m.bucketFor k ≠ i → m.cell? i k = some (some v) →
      (∀ ops, (∀ hs w, ShardedOp.putAllIn i hs w ∈ ops → k ∉ hs) → ∀ op : MapOp, op.Keyed →
        (op.step (ShardedOp.run m ops).2).1 = (op.step (ShardedOp.run (m.without i k) ops).2).1) ∧
      ∀ ops, ShardedOp.removeBucket i ∉ ops →
        let n := (ShardedOp.run m ops).2
        let rest := n.without i k
        n.cell? i k = some (some v) ∧
        (∀ op : MapOp, op.Keyed → (op.step n).1 = (op.step rest).1) ∧
        n.size = rest.size + 1 ∧ n.keys.Perm (k :: rest.keys) ∧
        ∀ decide, (∀ seen, decide seen = .proceed) →
          (n.walk (recording decide) []).Perm ((k, v) :: rest.walk (recording decide) []) := by
  refine ⟨fun op h hsingle => ⟨fun m' => step_reads_slot hsingle, fun b => slot?_step_of_ne hsingle⟩, ?_⟩
  intro i k v hroute hcell
  -- no hash is routed to the place of the entry
  have hoff : ∀ {n : Sharded τ}, n.buckets = m.buckets → ∀ h, ¬(n.bucketFor h = i ∧ h = k) := by
    rintro n hbuckets h ⟨hi, rfl⟩
    rw [bucketFor, hbuckets] at hi
    exact hroute hi
  constructor
  · intro ops hops op hkeyed
    have hsep : ∀ op ∈ ops, op.Separates m.buckets fun b h => b = i ∧ h = k := by
      intro op hop
      cases op with
      | map op =>
          cases op with
          | putAll hs w => exact fun h _ => hoff rfl h
          | _ => trivial
      | putAllIn b hs w =>
          refine Or.inr fun h hh hat => ?_
          exact hops hs w (hat.1 ▸ hop) (hat.2 ▸ hh)
      | removeBucket | flatten => trivial
    have hbuckets : (ShardedOp.run m ops).2.buckets = m.buckets := ShardedOp.buckets_run m ops
    exact ((agreeOff_without m i k).run hsep).answer hkeyed fun h _ => hoff hbuckets h
  · intro ops hops n rest
    have hm : m.HasMisplaced i k v := ⟨hroute, hcell⟩
    have hn : n.HasMisplaced i k v := hm.run hops
    have hlist : n.toList.Perm ((k, v) :: rest.toList) := toList_perm_without hn.2
    refine ⟨hn.2, fun op hkeyed => ?_, ?_, ?_, fun decide hdecide => ?_⟩
    · exact (agreeOff_without n i k).answer hkeyed fun h _ => hoff (ShardedOp.buckets_run m ops) h
    · rw [size_eq_length, size_eq_length, hlist.length_eq, List.length_cons]
    · rw [keys_eq, keys_eq]
      exact hlist.map Prod.fst
    · rw [walk_recording hdecide, walk_recording hdecide]
      exact hlist

/-- A hash behind the last bucket, and the same hash in its own slot, which comes and goes. -/
theorem misplaced_behind_last_bucket :
    let a := Hash.ofBytes [0, 2]
    let m : Sharded (EntryList Hash UInt64) := (ShardedOp.run (withBuckets 4 2) [.putAllIn 2 [a] 7, .map (.put a 1)]).2
    let ops : List ShardedOp := [.map (.delete a), .putAllIn 2 [a] 9, .map (.set a 5), .removeBucket 0]
    m.bucketFor a ≠ 2 ∧ m.cell? 2 a = some (some 7) ∧ ShardedOp.removeBucket 2 ∉ ops ∧
      (ShardedOp.run m ops).2.cell? 2 a = some (some 7) ∧
      ((MapOp.get a).step (ShardedOp.run m [.map (.delete a)]).2).1 =
        ((MapOp.get a).step (ShardedOp.run (m.without 2 a) [.map (.delete a)]).2).1 := by
  intro a m ops
  have hroute : m.bucketFor a ≠ 2 := by decide
  have hcell : m.cell? 2 a = some (some 7) := by decide
  have hops : ShardedOp.removeBucket 2 ∉ ops := by simp [ops]
  obtain ⟨-, hentry⟩ := misplaced_out_of_reach m
  obtain ⟨hunseen, hstays⟩ := hentry 2 a 7 hroute hcell
  exact ⟨hroute, hcell, hops, (hstays ops hops).1, hunseen [.map (.delete a)] (by simp) (.get a) trivial⟩

end Sharded
end ShardStore
