import ShardStore.Proofs.Counted.Store

/-!
# Puts into a split map of numbers

A put works on the store of the bucket of the key, whether it comes through the map or through the writer of that bucket. A
writer sends away what belongs to another bucket before it looks. All other stores stay.
-/

namespace ShardStore

namespace CountedShards

variable {τ : Type} {m : CountedShards τ} {b : UInt64} {s : Counted τ}

/-! ## The stores -/

/-- The store of a bucket, or the spare one. -/
def store? (m : CountedShards τ) (b : UInt64) : Option (Counted τ) := m.stores[b.toNat]?

/-- The map with another store for one bucket. -/
def withStore (m : CountedShards τ) (b : UInt64) (s : Counted τ) : CountedShards τ :=
  { m with stores := m.stores.setIfInBounds b.toNat s }

theorem lt_stores (m : CountedShards τ) (key : UInt64) : (m.bucketFor key).toNat < m.buckets.toNat + 1 :=
  Nat.lt_succ_of_lt (m.bucketFor_lt key)

theorem store?_bucketFor (m : CountedShards τ) (key : UInt64) : m.store? (m.bucketFor key) = some (m.storeFor key) :=
  Vector.getElem?_eq_getElem (m.lt_stores key)

theorem lt_of_store? (hs : m.store? b = some s) : b.toNat < m.buckets.toNat + 1 := (Vector.getElem?_eq_some_iff.1 hs).1

theorem toNat_ofNat {i : Nat} (hi : i < m.buckets.toNat + 1) : (UInt64.ofNat i).toNat = i := by
  have hlt := m.buckets.toNat_lt
  rw [UInt64.toNat_ofNat', Nat.mod_eq_of_lt (by omega)]

theorem store?_ofNat {i : Nat} (hi : i < m.buckets.toNat + 1) : m.store? (.ofNat i) = some m.stores[i] := by
  rw [store?, toNat_ofNat hi]
  exact Vector.getElem?_eq_getElem hi

theorem store?_writer (m : CountedShards τ) (i : Fin m.buckets.toNat) : m.store? (.ofNat i) = some (m.writer i).store :=
  store?_ofNat (Nat.lt_succ_of_lt i.isLt)

theorem store?_withStore (hs : m.store? b = some s) (s' : Counted τ) (c : UInt64) :
    (m.withStore b s').store? c = if b = c then some s' else m.store? c := by
  change (m.stores.setIfInBounds b.toNat s')[c.toNat]? = _
  rw [Vector.getElem?_setIfInBounds]
  simp only [UInt64.toNat_inj, lt_of_store? hs, if_true]
  rfl

theorem withStore_eq_self (hs : m.store? b = some s) : m.withStore b s = m := by
  have hstores : m.stores.setIfInBounds b.toNat s = m.stores := by
    refine Vector.ext fun i hi => ?_
    rw [Vector.getElem_setIfInBounds]
    split
    · next hb =>
        subst hb
        exact (Vector.getElem_eq_iff.2 hs).symm
    · rfl
  rw [withStore, hstores]

/-- The stores of a map are that of one bucket and others, which stay when it is exchanged. -/
theorem stores_withStore_perm (hs : m.store? b = some s) (s' : Counted τ) :
    ∃ rest, m.stores.toList.Perm (s :: rest) ∧ (m.withStore b s').stores.toList.Perm (s' :: rest) := by
  have hlt : b.toNat < m.stores.toList.length := by
    rw [Vector.length_toList]
    exact lt_of_store? hs
  have hset := fun t => List.set_perm_cons_eraseIdx hlt t
  have hself : m.stores.toList.set b.toNat s = m.stores.toList := by
    rw [← Vector.toList_setIfInBounds]
    exact congrArg (fun n => n.stores.toList) (withStore_eq_self hs)
  refine ⟨_, hself ▸ hset s, ?_⟩
  rw [withStore, Vector.toList_setIfInBounds]
  exact hset s'

theorem size_withStore (hs : m.store? b = some s) (s' : Counted τ) :
    (m.withStore b s').size + s.size = m.size + s'.size := by
  obtain ⟨rest, hbefore, hafter⟩ := stores_withStore_perm hs s'
  have hsum : ∀ n : CountedShards τ, n.size = (n.stores.toList.map Counted.size).sum := fun n => rfl
  rw [hsum, hsum, (hbefore.map _).sum_nat, (hafter.map _).sum_nat, List.map_cons, List.map_cons, List.sum_cons,
    List.sum_cons]
  omega

/-! ## Puts -/

variable [Table τ UInt64 UInt64]

/-- The keys of all stores, store by store. -/
def keys (m : CountedShards τ) : List UInt64 := m.stores.toList.flatMap Counted.keys

/-- The number of entries in all stores, by their tables. -/
def entries (m : CountedShards τ) : Nat := (m.stores.toList.map Counted.entries).foldr (· + ·) 0

theorem store?_withBuckets (hint : Nat) (n b : UInt64) :
    (withBuckets hint n : CountedShards τ).store? b =
      if b.toNat < (atLeastOneBucket n).toNat + 1 then some (.withCapacity (share hint (atLeastOneBucket n))) else none :=
  Vector.getElem?_replicate

omit [Table τ UInt64 UInt64] in
theorem set_eq_withStore {i : Nat} (hi : i < m.buckets.toNat + 1) (hb : b.toNat = i) (s : Counted τ) :
    ({ m with stores := m.stores.set i s hi } : CountedShards τ) = m.withStore b s := by
  subst hb
  unfold withStore
  congr 1
  refine Vector.ext fun i hi => ?_
  rw [Vector.getElem_set, Vector.getElem_setIfInBounds]

theorem onWriter_eq {α : Type} (m : CountedShards τ) (i : Fin m.buckets.toNat) (work : Writer τ → α × Writer τ) :
    m.onWriter i work = ((work (m.writer i)).1, m.withStore (.ofNat i) (work (m.writer i)).2.store) := by
  rw [onWriter]
  simp only [workAt_fst, workAt_snd, Fin.val_castSucc, Fin.getElem_fin]
  rw [set_eq_withStore _ (toNat_ofNat (Nat.lt_succ_of_lt i.isLt))]
  rfl

theorem put_eq (m : CountedShards τ) (key value : UInt64) :
    m.put key value =
      (((m.storeFor key).put key value).1, m.withStore (m.bucketFor key) ((m.storeFor key).put key value).2) := by
  rw [put]
  simp only [workAt_fst, workAt_snd, Fin.val_castSucc, Fin.getElem_fin]
  rw [set_eq_withStore _ rfl]
  rfl

omit [Table τ UInt64 UInt64] in
theorem writer_owns_iff {i : Fin m.buckets.toNat} {key : UInt64} :
    (m.writer i).owns key = true ↔ m.bucketFor key = .ofNat i := by
  rw [Writer.owns, beq_iff_eq]
  rfl

/-- A writer does with a key of its bucket what the map does. -/
theorem onWriter_put_of_owned {i : Fin m.buckets.toNat} {key : UInt64} (hroute : m.bucketFor key = .ofNat i)
    (value : UInt64) : m.onWriter i (·.put key value) = m.put key value := by
  have hstore : (m.writer i).store = m.storeFor key := by
    have hsome := m.store?_writer i
    rw [← hroute, store?_bucketFor] at hsome
    exact (Option.some.inj hsome).symm
  rw [onWriter_eq, put_eq, Writer.put, if_pos (writer_owns_iff.2 hroute), hstore, hroute]

/-- It sends away a key of another bucket, whatever is there. -/
theorem onWriter_put_of_foreign {i : Fin m.buckets.toNat} {key : UInt64} (hroute : m.bucketFor key ≠ .ofNat i)
    (value : UInt64) :
    m.onWriter i (·.put key value) = (.error (.foreign key (.ofNat i) (m.bucketFor key)), m) := by
  rw [onWriter_eq, Writer.put, if_neg fun howns => hroute (writer_owns_iff.1 howns), withStore_eq_self (m.store?_writer i)]
  rfl

theorem buckets_put (m : CountedShards τ) (key value : UInt64) : (m.put key value).2.buckets = m.buckets := by
  rw [put_eq]
  rfl

theorem store?_put (m : CountedShards τ) (key value : UInt64) (c : UInt64) :
    (m.put key value).2.store? c =
      if m.bucketFor key = c then some ((m.storeFor key).put key value).2 else m.store? c := by
  rw [put_eq, store?_withStore (m.store?_bucketFor key)]

theorem storeFor_put (m : CountedShards τ) (key value : UInt64) :
    (m.put key value).2.storeFor key = ((m.storeFor key).put key value).2 := by
  have hstore := m.store?_put key value (m.bucketFor key)
  have hroute : (m.put key value).2.bucketFor key = m.bucketFor key := by rw [bucketFor, buckets_put, bucketFor]
  rw [if_pos rfl, ← hroute, store?_bucketFor] at hstore
  exact Option.some.inj hstore

/-! ## What a put does to the whole map -/

theorem keys_withStore_perm (hs : m.store? b = some s) (s' : Counted τ) :
    ∃ rest, m.keys.Perm (s.keys ++ rest) ∧ (m.withStore b s').keys.Perm (s'.keys ++ rest) := by
  obtain ⟨rest, hbefore, hafter⟩ := stores_withStore_perm hs s'
  exact ⟨rest.flatMap Counted.keys, hbefore.flatMap_right _, hafter.flatMap_right _⟩

variable [LawfulTable τ]

theorem entries_eq_length (m : CountedShards τ) : m.entries = m.keys.length := by
  have hstore : ∀ s ∈ m.stores.toList, s.entries = s.keys.length := fun s _ => (Table.length_keys s.table).symm
  rw [entries, keys, List.length_flatMap, List.map_congr_left hstore]
  rfl

theorem allOrNothing_put (m : CountedShards τ) (key value : UInt64) :
    AllOrNothing (.add key value) (fun n k => (n.store? (m.bucketFor key)).bind (·.get? k)) keys entries True
      ((m.put key value).1 ≠ .ok ()) m (m.put key value).2 := by
  have hs := m.store?_bucketFor key
  obtain ⟨rest, hkeys, hkeys'⟩ := keys_withStore_perm hs ((m.storeFor key).put key value).2
  rw [put_eq]
  refine ((m.storeFor key).allOrNothing_put key value).of_part (fun n => n.store? (m.bucketFor key)) hs ?_ trivial
    (fun hsame => ?_) hkeys hkeys' entries_eq_length
  · rw [store?_withStore hs, if_pos rfl]
  · rw [hsame, withStore_eq_self hs]

/-! ## The counts -/

/-- Every store counts its entries. -/
def Counts (m : CountedShards τ) : Prop := ∀ b s, m.store? b = some s → s.Counts

theorem counts_withBuckets (hint : Nat) (n : UInt64) : (withBuckets hint n : CountedShards τ).Counts := by
  intro b s hs
  rw [store?_withBuckets] at hs
  split at hs
  · cases hs
    exact Counted.counts_withCapacity _
  · cases hs

theorem Counts.put (hm : m.Counts) (key value : UInt64) : (m.put key value).2.Counts := by
  intro c s hs
  rw [store?_put] at hs
  split at hs
  · cases hs
    exact (hm _ _ (m.store?_bucketFor key)).put key value
  · exact hm c s hs

theorem size_put {key value : UInt64} (hm : m.Counts) (hfew : (m.storeFor key).entries + 1 < UInt64.size)
    (hok : (m.put key value).1 = .ok ()) : (m.put key value).2.size = m.size + 1 := by
  have hs := m.store?_bucketFor key
  have hsize := size_withStore hs ((m.storeFor key).put key value).2
  rw [put_eq] at hok ⊢
  rw [(hm _ _ hs).size_put hfew hok] at hsize
  change (m.withStore (m.bucketFor key) ((m.storeFor key).put key value).2).size = m.size + 1
  omega

end CountedShards

/-! ## Runs -/

namespace CountedOp

variable {τ : Type} [Table τ UInt64 UInt64]

theorem step_writer (m : CountedShards τ) (i : Fin m.buckets.toNat) (op : WriterOp) :
    (CountedOp.writer i op).step m = (.writer (some (m.onWriter i op.step).1), (m.onWriter i op.step).2) := by
  rw [step, dif_pos i.isLt]

/-- A writer that is given a key of its bucket answers and leaves what the map does. -/
theorem step_writer_put_of_owned {m : CountedShards τ} {i : Nat} {key : UInt64} (hroute : (m.bucketFor key).toNat = i)
    (value : UInt64) :
    (CountedOp.writer i (.put key value)).step m =
      (.writer (some (.outcome (m.put key value).1)), (m.put key value).2) := by
  subst hroute
  have howned := CountedShards.onWriter_put_of_owned (i := ⟨_, m.bucketFor_lt key⟩) (UInt64.ofNat_toNat).symm value
  rw [← howned, step_writer m ⟨_, m.bucketFor_lt key⟩, CountedShards.onWriter_eq, CountedShards.onWriter_eq]
  rfl

/-- One that is given another key answers where that belongs, and leaves all as it is. -/
theorem step_writer_put_of_foreign {m : CountedShards τ} {i : Fin m.buckets.toNat} {key : UInt64}
    (hroute : m.bucketFor key ≠ .ofNat i) (value : UInt64) :
    (CountedOp.writer i (.put key value)).step m =
      (.writer (some (.outcome (.error (.foreign key (.ofNat i) (m.bucketFor key))))), m) := by
  have hforeign := CountedShards.onWriter_put_of_foreign hroute value
  rw [CountedShards.onWriter_eq] at hforeign
  obtain ⟨hanswer, hnext⟩ := Prod.mk.inj hforeign
  rw [step_writer, CountedShards.onWriter_eq, ← hanswer]
  exact congrArg _ hnext

/-- What a writer does leaves the map as it is, or as a put does. -/
theorem onWriter_snd (m : CountedShards τ) (i : Fin m.buckets.toNat) (op : WriterOp) :
    (m.onWriter i op.step).2 = m ∨ ∃ key value, (m.onWriter i op.step).2 = (m.put key value).2 := by
  cases op with
  | bucket | owns | size =>
      rw [CountedShards.onWriter_eq]
      exact Or.inl (CountedShards.withStore_eq_self (m.store?_writer i))
  | put key value =>
      have hstep : (m.onWriter i (WriterOp.put key value).step).2 = ((CountedOp.writer i (.put key value)).step m).2 := by
        rw [step_writer]
      rw [hstep]
      by_cases hroute : m.bucketFor key = .ofNat i
      · refine Or.inr ⟨key, value, ?_⟩
        rw [step_writer_put_of_owned]
        rw [hroute, CountedShards.toNat_ofNat (Nat.lt_succ_of_lt i.isLt)]
      · rw [step_writer_put_of_foreign hroute]
        exact Or.inl rfl

/-- So does every operation. -/
theorem step_snd (m : CountedShards τ) (op : CountedOp) :
    (op.step m).2 = m ∨ ∃ key value, (op.step m).2 = (m.put key value).2 := by
  cases op with
  | put key value => exact Or.inr ⟨key, value, rfl⟩
  | get | contains | size => exact Or.inl rfl
  | writer i op =>
      by_cases hi : i < m.buckets.toNat
      · rw [step_writer m ⟨i, hi⟩ op]
        exact onWriter_snd m ⟨i, hi⟩ op
      · rw [step, dif_neg hi]
        exact Or.inl rfl

theorem run_cons (m : CountedShards τ) (op : CountedOp) (ops : List CountedOp) :
    run m (op :: ops) = ((op.step m).1 :: (run (op.step m).2 ops).1, (run (op.step m).2 ops).2) := rfl

theorem run_append (m : CountedShards τ) (before after : List CountedOp) :
    (run m (before ++ after)).2 = (run (run m before).2 after).2 := by
  induction before generalizing m with
  | nil => rfl
  | cons op before ih => exact ih (op.step m).2

theorem run_keeps {P : CountedShards τ → Prop} (hput : ∀ m key value, P m → P (m.put key value).2) {m : CountedShards τ}
    (hstart : P m) (ops : List CountedOp) : P (run m ops).2 := by
  induction ops generalizing m with
  | nil => exact hstart
  | cons op ops ih =>
      refine ih (m := (op.step m).2) ?_
      rcases step_snd m op with hsame | ⟨key, value, hnext⟩
      · rw [hsame]
        exact hstart
      · rw [hnext]
        exact hput m key value hstart

theorem buckets_run (m : CountedShards τ) (ops : List CountedOp) : (run m ops).2.buckets = m.buckets :=
  run_keeps (P := fun n => n.buckets = m.buckets) (fun n key value hn => (n.buckets_put key value).trans hn) rfl ops

theorem buckets_step (m : CountedShards τ) (op : CountedOp) : (op.step m).2.buckets = m.buckets := buckets_run m [op]

end CountedOp
end ShardStore
