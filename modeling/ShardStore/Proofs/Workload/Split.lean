import ShardStore.Config.Basic
import ShardStore.Proofs.Batch
import ShardStore.Proofs.Sharded.Placement
import ShardStore.Proofs.Workload.Chunks

/-!
# Filling a sharded map by several workers

Of a hash that comes more than once, in one chunk or in several, the first put is done and the others are refused. Which of them
is first depends on whose turn it is, but how many are refused does not.
-/

namespace ShardStore

variable {τ : Type} [Table τ Hash UInt64]

/-! ## One put -/

section

variable {fill : Fill (Sharded τ)} {p : Put} {hs : List Hash}

theorem Fill.put_of_ok (hput : (fill.store.put p.1 p.2).1 = .ok ()) :
    fill.put p = ⟨(fill.store.put p.1 p.2).2, fill.refused⟩ := by
  obtain ⟨m, refused⟩ := fill
  rw [Fill.put]
  split
  · next heq => rw [heq]
  · next heq => rw [heq] at hput; cases hput

theorem Fill.put_of_error {e : StoreError} {m : Sharded τ} (hput : fill.store.put p.1 p.2 = (.error e, m)) :
    fill.put p = ⟨m, fill.refused + 1⟩ := by
  obtain ⟨store, refused⟩ := fill
  rw [Fill.put]
  simp only [hput]

/-- What holds of a fill that has had a put of each of these hashes. -/
structure Fill.Having (fill : Fill (Sharded τ)) (hs : List Hash) : Prop where
  routed : fill.store.Routed
  slot : ∀ b ≤ fill.store.buckets, (fill.store.slot? b).isSome = true
  contains_iff : ∀ h, fill.store.contains h = true ↔ h ∈ hs
  refused : fill.refused + hs.toFinset.card = hs.length

/-- Only which hashes there are, and how many, matters. -/
theorem Fill.Having.perm {hs' : List Hash} (hf : fill.Having hs) (hperm : hs.Perm hs') : fill.Having hs' where
  routed := hf.routed
  slot := hf.slot
  contains_iff h := (hf.contains_iff h).trans hperm.mem_iff
  refused := by rw [← List.toFinset_eq_of_perm _ _ hperm, ← hperm.length_eq, hf.refused]

variable [LawfulTable τ]

theorem Fill.Having.free_iff (hf : fill.Having hs) (h : Hash) : fill.store.Free h ↔ h ∉ hs := by
  obtain ⟨s, hs⟩ := Option.isSome_iff_exists.1 (hf.slot _ (fill.store.bucketFor_le h))
  rw [← hf.contains_iff, Sharded.contains_eq, Sharded.get?_eq, Sharded.Free, hs]
  simp

theorem Fill.Having.put (hf : fill.Having hs) (p : Put) : (fill.put p).Having (p.1 :: hs) := by
  have hcount := hf.refused
  by_cases hh : p.1 ∈ hs
  · have hput := Sharded.put_of_not_free (mt (hf.free_iff p.1).1 (not_not.2 hh)) p.2
    rw [Fill.put_of_error hput]
    refine ⟨hf.routed, hf.slot, fun k => ?_, ?_⟩
    · have hback : k = p.1 → k ∈ hs := fun hk => hk ▸ hh
      rw [hf.contains_iff, List.mem_cons, or_iff_right_of_imp hback]
    · rw [List.toFinset_cons, Finset.insert_eq_of_mem (List.mem_toFinset.2 hh), List.length_cons]
      change fill.refused + 1 + hs.toFinset.card = hs.length + 1
      omega
  · have hfree : fill.store.Free p.1 := (hf.free_iff p.1).2 hh
    obtain ⟨hok, hgains⟩ := Sharded.put_of_free hfree p.2
    rw [Fill.put_of_ok hok]
    refine ⟨hf.routed.step (.put p.1 p.2), fun b hb => ?_, fun k => ?_, ?_⟩
    · rw [← hf.slot b (hgains.buckets ▸ hb)]
      exact fill.store.isSome_slot?_step (.put p.1 p.2) b
    · have hget := hgains.get?_eq (List.forall_mem_singleton.2 hfree) k
      have hold := hf.contains_iff k
      rw [Sharded.contains_eq] at hold ⊢
      simp only [hget, List.mem_cons]
      split <;> simp_all
    · rw [List.toFinset_cons, Finset.card_insert_of_notMem (mt List.mem_toFinset.1 hh), List.length_cons]
      change fill.refused + (hs.toFinset.card + 1) = hs.length + 1
      omega

/-! ## All puts -/

theorem Fill.Having.puts (hf : fill.Having hs) (puts : List Put) :
    (puts.foldl Fill.put fill).Having ((puts.map Prod.fst).reverse ++ hs) := by
  induction puts generalizing fill hs with
  | nil => exact hf
  | cons p puts ih =>
      rw [List.map_cons, List.reverse_cons, List.append_assoc]
      exact ih (hf.put p)

theorem Fill.Having.size_eq (hf : fill.Having hs) : fill.store.size = hs.toFinset.card := by
  have hkeys : fill.store.keys.toFinset = hs.toFinset := by
    ext h
    rw [List.mem_toFinset, List.mem_toFinset, ← hf.routed.wellPlaced.contains_iff, hf.contains_iff]
  rw [← hkeys, List.toFinset_card_of_nodup hf.routed.keys_nodup, fill.store.length_keys]

end

/-! ## The workload -/

variable {hashes : List Hash} {workers : Nat}

variable [LawfulTable τ]

end ShardStore
