import ShardStore.Proofs.Batch
import ShardStore.Proofs.Sharded.Interchange
import ShardStore.Proofs.Sharded.Walk

/-!
# Maps in one store

All entries of a sharded map in one store. A hash that stands in several slots has the value of the first one there, and is
counted once. Where every hash is in the slot of its bucket, nothing is lost.
-/

namespace ShardStore

/-- What is found in a row of numbers is found at the first that has it. -/
theorem findSome?_range_eq_some_iff {α : Type} {f : Nat → Option α} {n : Nat} {a : α} :
    (List.range n).findSome? f = some a ↔ ∃ i, i < n ∧ f i = some a ∧ ∀ j, j < i → f j = none := by
  induction n with
  | zero => simp
  | succ n ih =>
      rw [List.range_succ, List.findSome?_append, Option.or_eq_some_iff, ih]
      simp only [List.findSome?_eq_none_iff, List.mem_range, List.findSome?_singleton]
      constructor
      · rintro (⟨i, hi, hfound⟩ | ⟨hbefore, hlast⟩)
        · exact ⟨i, Nat.lt_succ_of_lt hi, hfound⟩
        · exact ⟨n, Nat.lt_succ_self n, hlast, hbefore⟩
      · rintro ⟨i, hi, hfound, hbefore⟩
        rcases Nat.lt_succ_iff_lt_or_eq.1 hi with hless | rfl
        · exact .inl ⟨i, hless, hfound, hbefore⟩
        · exact .inr ⟨hbefore, hfound⟩

namespace Store

variable {τ : Type} [Table τ Hash UInt64] [LawfulTable τ]

theorem keys_put_of_absent [AppendingTable τ] {s : Store τ} {h : Hash} (hget : s.get? h = none) (v : UInt64) :
    (s.put h v).2.keys = s.keys ++ [h] := by
  rw [keys_eq, (gains_put hget v).inOrder inferInstance, List.map_append, ← keys_eq]
  rfl

/-- Entries that are put one after another come behind those that are there, each hash when it comes first. -/
theorem keys_foldl_put [AppendingTable τ] (s : Store τ) (es : List Entry) :
    (es.foldl (fun out e => (out.put e.1 e.2).2) s).keys =
      s.keys ++ ((es.map Prod.fst).filter (· ∉ s.keys)).eraseDups := by
  induction es generalizing s with
  | nil => simp
  | cons e es ih =>
      rw [List.foldl_cons, ih, List.map_cons]
      cases hget : s.get? e.1 with
      | some old =>
          have hthere : e.1 ∈ s.keys := (s.mem_keys_iff e.1).2 (by rw [hget]; rfl)
          rw [put_of_present hget, List.filter_cons_of_neg (by simpa using hthere)]
      | none =>
          have hnew : e.1 ∉ s.keys := by simp [mem_keys_iff, hget]
          -- what the store has gained is missing from the rest on one side, and struck out by `eraseDups` on the other
          rw [keys_put_of_absent hget, List.filter_cons_of_pos (by simpa using hnew), List.eraseDups_cons,
            List.filter_filter, List.append_assoc, List.singleton_append]
          congr 4
          funext k
          rw [Bool.eq_iff_iff]
          simp [and_comm]

end Store

namespace Sharded

variable {τ : Type} [Table τ Hash UInt64] {m : Sharded τ} {h : Hash} {v : UInt64}

/-- Flattening is a walk that puts every entry into an empty store, and does not mind when one is refused. -/
theorem flatten_eq_walk (m : Sharded τ) :
    m.flatten = m.walk (fun out e => ((out.put e.1 e.2).2, .proceed)) (Store.withCapacity m.size) := by
  rw [flatten, List.foldl_flatMap, walk]
  congr 1
  funext out s
  exact (walk_of_proceeds _ out s.toList).symm

variable [LawfulTable τ]

/-! ## What is found -/

theorem findEntry_toList (m : Sharded τ) (h : Hash) :
    findEntry h m.toList =
      (List.range (m.buckets.toNat + 1)).findSome? fun i => (m.slot? (.ofNat i)).bind (·.get? h) := by
  rw [toList, live_eq]
  induction List.range (m.buckets.toNat + 1) with
  | nil => rfl
  | cons i numbers ih =>
      rw [List.findSome?_cons, ← ih, List.filterMap_cons]
      cases m.slot? (.ofNat i) with
      | none => rfl
      | some s =>
          simp only [List.flatMap_cons, findEntry_append, s.findEntry_toList, Option.bind_some]
          cases s.get? h <;> rfl

theorem get?_flatten_eq_some_iff :
    m.flatten.get? h = some v ↔
      ∃ b s, m.slot? b = some s ∧ s.get? h = some v ∧ ∀ c t, c < b → m.slot? c = some t → t.get? h = none := by
  rw [get?_flatten, findEntry_toList, findSome?_range_eq_some_iff]
  constructor
  · rintro ⟨i, hi, hfound, hbefore⟩
    obtain ⟨s, hs, hget⟩ := Option.bind_eq_some_iff.1 hfound
    refine ⟨.ofNat i, s, hs, hget, fun c t hc ht => ?_⟩
    have hnone := hbefore c.toNat (by rwa [UInt16.lt_iff_toNat_lt, toNat_ofNat hi] at hc)
    rwa [UInt16.ofNat_toNat, ht] at hnone
  · rintro ⟨b, s, hs, hget, hbefore⟩
    have hb := (m.lt_slots_iff b).2 (le_buckets hs)
    refine ⟨b.toNat, hb, by rw [UInt16.ofNat_toNat, hs]; exact hget, fun j hj => ?_⟩
    have hlt : UInt16.ofNat j < b := by rwa [UInt16.lt_iff_toNat_lt, toNat_ofNat (hj.trans hb)]
    cases ht : m.slot? (.ofNat j) with
    | none => rfl
    | some t => exact hbefore _ t hlt ht

theorem mem_keys_flatten : h ∈ m.flatten.keys ↔ h ∈ m.keys := by
  rw [Store.mem_keys_iff, get?_flatten, ← Option.ne_none_iff_isSome, ne_eq, findEntry_eq_none_iff, not_not, keys_eq]
  rfl

theorem get?_flatten_eq_none_iff : m.flatten.get? h = none ↔ ∀ b s, m.slot? b = some s → s.get? h = none := by
  have hnone : ∀ s : Store τ, s.get? h = none ↔ h ∉ s.keys := fun s => by
    rw [Store.mem_keys_iff, Option.not_isSome_iff_eq_none]
  simp only [hnone, mem_keys_flatten, mem_keys_iff_slot, not_exists, not_and]

/-- Where every hash is in the slot of its bucket, it is found in the one store as in the map. -/
theorem Routed.get?_flatten (hm : m.Routed) (h : Hash) : m.flatten.get? h = m.get? h := by
  have hdistinct : (entryKeys m.toList).Nodup := by
    rw [entryKeys, ← keys_eq]
    exact hm.keys_nodup
  refine Option.ext fun v => ?_
  rw [Sharded.get?_flatten, ← mem_iff_findEntry hdistinct, hm.get?_iff]

/-! ## How much there is -/

theorem toFinset_keys_flatten (m : Sharded τ) : m.flatten.keys.toFinset = m.keys.toFinset := by
  ext h
  rw [List.mem_toFinset, List.mem_toFinset, mem_keys_flatten]

theorem size_flatten (m : Sharded τ) : m.flatten.size = m.keys.toFinset.card := by
  rw [← toFinset_keys_flatten, List.toFinset_card_of_nodup m.flatten.nodup_keys, Store.length_keys]

theorem keys_flatten [AppendingTable τ] (m : Sharded τ) : m.flatten.keys = m.keys.eraseDups := by
  have hempty : (Store.withCapacity m.size : Store τ).keys = [] := Table.keys_withCapacity m.size
  have hall : (m.keys.filter fun h => h ∉ ([] : List Hash)) = m.keys := List.filter_eq_self.2 (by simp)
  rw [flatten, Store.keys_foldl_put, hempty, ← toList, ← keys_eq, hall, List.nil_append]

/-! ## One store for the map -/

/-- A store has of each hash in a map the copy in the first slot that has one, and nothing else. -/
structure FirstCopies (m : Sharded τ) (s : Store τ) : Prop where
  value : ∀ h v, s.get? h = some v ↔
    ∃ b t, m.slot? b = some t ∧ t.get? h = some v ∧ ∀ c u, c < b → m.slot? c = some u → u.get? h = none
  absent : ∀ h, s.get? h = none ↔ ∀ b t, m.slot? b = some t → t.get? h = none
  size_eq : s.size = {h | ∃ b t, m.slot? b = some t ∧ h ∈ t.keys}.ncard
  size_le : s.size ≤ m.size
  /-- Nothing is left out just if no hash is in two slots. -/
  size_eq_iff : s.size = m.size ↔ m.keys.Nodup
  /-- Where new hashes go to the end, the order is that of the map. -/
  inOrder : AppendingTable τ → s.keys = m.keys.eraseDups

theorem firstCopies_flatten (m : Sharded τ) : m.FirstCopies m.flatten where
  value _ _ := get?_flatten_eq_some_iff
  absent _ := get?_flatten_eq_none_iff
  size_eq := by rw [ncard_stored, size_flatten]
  size_le := by
    rw [size_flatten, ← length_keys]
    exact List.toFinset_card_le m.keys
  size_eq_iff := by
    rw [size_flatten, ← length_keys]
    exact Multiset.toFinset_card_eq_card_iff_nodup (m := (m.keys : Multiset Hash))
  inOrder _ := m.keys_flatten

/-- A map in one store. The map stays as it is. The walk puts every entry into the store, which refuses a hash that it has. So the
first slot with a hash gives its value, and where every hash is in the slot of its bucket, look-ups find the same. -/
theorem flattened_to_first_copies (m : Sharded τ) :
    ShardedOp.flatten.step m = (.store (some m.flatten), m) ∧
    m.flatten = m.walk (fun out e => ((out.put e.1 e.2).2, .proceed)) (Store.withCapacity m.size) ∧
    m.FirstCopies m.flatten ∧
    ((∀ b s, m.slot? b = some s → ∀ h ∈ s.keys, m.bucketFor h = b) → ∀ h, m.flatten.get? h = m.get? h) := by
  refine ⟨rfl, m.flatten_eq_walk, m.firstCopies_flatten, fun hplaced => ?_⟩
  have hm : m.Routed := fun b h v hcell => by
    obtain ⟨s, hs, hget⟩ := Option.map_eq_some_iff.1 hcell
    exact hplaced b s hs h ((s.mem_keys_iff h).2 (by rw [hget]; rfl))
  exact hm.get?_flatten

/-- A hash that stands in three slots with different values, its own one being the second of them; and a map with nothing out of
place. -/
theorem copy_in_first_slot_found :
    let a := Hash.ofBytes [0, 3]
    let b := Hash.ofBytes [0, 2]
    let m : Sharded (EntryList Hash UInt64) :=
      (ShardedOp.run (withBuckets 4 3) [.putAllIn 0 [a, b] 1, .removeBucket 1, .putAllIn 2 [b] 2, .putAllIn 3 [b, a] 3]).2
    let placed : Sharded (EntryList Hash UInt64) := ((MapOp.putAll [b, a] 4).step (withBuckets 4 3)).2
    m.flatten.get? b = some 1 ∧ m.get? b = some 2 ∧ m.flatten.keys = [a, b] ∧ m.flatten.size ≠ m.size ∧
      (∀ i s, placed.slot? i = some s → ∀ h ∈ s.keys, placed.bucketFor h = i) ∧
      placed.flatten.get? b = placed.get? b := by
  intro a b m placed
  have hplaced : placed.Routed := (routed_withBuckets 4 3).step (.putAll [b, a] 4)
  have hslots : ∀ i s, placed.slot? i = some s → ∀ h ∈ s.keys, placed.bucketFor h = i := fun i s => hplaced.of_mem_keys
  obtain ⟨-, -, hcopies, -⟩ := flattened_to_first_copies m
  have hkeys : m.flatten.keys = m.keys.eraseDups := hcopies.inOrder inferInstance
  have htwice : ¬m.keys.Nodup := by decide
  have hlost : m.flatten.size ≠ m.size := mt hcopies.size_eq_iff.1 htwice
  have hcell : m.cell? 0 b = some (some 1) := by decide
  obtain ⟨s, hslot, hget⟩ := Option.map_eq_some_iff.1 hcell
  have hfirst : m.flatten.get? b = some 1 :=
    (hcopies.value b 1).2 ⟨0, s, hslot, hget, fun c _ hc => absurd hc (UInt16.not_lt_zero)⟩
  refine ⟨hfirst, by decide, by rw [hkeys]; decide, hlost, hslots, ?_⟩
  exact (flattened_to_first_copies placed).2.2.2 hslots b

end Sharded
end ShardStore
