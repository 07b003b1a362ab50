import ShardStore.Proofs.Counted.Shards

/-!
# Counted stores over different tables

Counted stores with the same entries and the same count answer alike and remain so, and with them the split maps that are made
up of such stores, and their writers. None of them lists its entries, so all answers are equal.
-/

namespace ShardStore

variable {ν ν' : Type}

/-! ## One store -/

namespace Counted

variable [Table ν UInt64 UInt64] [Table ν' UInt64 UInt64]

/-- The stores have the same entries and the same count. -/
structure Alike (s : Counted ν) (s' : Counted ν') : Prop where
  get? : ∀ key, s.get? key = s'.get? key
  count : s.count = s'.count

variable {s : Counted ν} {s' : Counted ν'}

theorem Alike.size_eq (ha : s.Alike s') : s.size = s'.size := by rw [size, size, ha.count]

variable [LawfulTable ν] [LawfulTable ν']

theorem Alike.contains_eq (ha : s.Alike s') (key : UInt64) : s.contains key = s'.contains key := by
  rw [Counted.contains_eq, Counted.contains_eq, ha.get? key]

theorem alike_withCapacity (hint hint' : Nat) :
    (withCapacity hint : Counted ν).Alike (withCapacity hint' : Counted ν') where
  get? key := (LawfulTable.get?_withCapacity hint key).trans (LawfulTable.get?_withCapacity hint' key).symm
  count := rfl

theorem Alike.put (ha : s.Alike s') (key value : UInt64) :
    (s.put key value).1 = (s'.put key value).1 ∧ (s.put key value).2.Alike (s'.put key value).2 := by
  cases hget : s.get? key with
  | some old =>
      rw [put_of_present hget, put_of_present ((ha.get? key).symm.trans hget)]
      exact ⟨rfl, ha⟩
  | none =>
      rw [put_of_absent hget, put_of_absent ((ha.get? key).symm.trans hget)]
      refine ⟨rfl, fun k => ?_, congrArg (· + 1) ha.count⟩
      have hleft := LawfulTable.get?_insert s.table key value k
      have hleft' := LawfulTable.get?_insert s'.table key value k
      rw [show Table.get? s.table k = Table.get? s'.table k from ha.get? k, ← hleft'] at hleft
      exact hleft

theorem Alike.step (ha : s.Alike s') (op : Op) : (op.step s).1 = (op.step s').1 ∧ (op.step s).2.Alike (op.step s').2 := by
  cases op with
  | put key value =>
      obtain ⟨houtcome, hnext⟩ := ha.put key value
      exact ⟨congrArg CountedAnswer.outcome houtcome, hnext⟩
  | get key => exact ⟨congrArg CountedAnswer.value (ha.get? key), ha⟩
  | contains key => exact ⟨congrArg CountedAnswer.truth (ha.contains_eq key), ha⟩
  | size => exact ⟨congrArg CountedAnswer.count ha.size_eq, ha⟩

theorem Alike.run (ha : s.Alike s') (ops : List Op) :
    (Op.run s ops).1 = (Op.run s' ops).1 ∧ (Op.run s ops).2.Alike (Op.run s' ops).2 := by
  induction ops generalizing s s' with
  | nil => exact ⟨rfl, ha⟩
  | cons op ops ih =>
      obtain ⟨hanswer, hnext⟩ := ha.step op
      obtain ⟨hanswers, hend⟩ := ih hnext
      exact ⟨congrArg₂ List.cons hanswer hanswers, hend⟩

end Counted

/-! ## Writers -/

namespace Writer

variable [Table ν UInt64 UInt64] [Table ν' UInt64 UInt64]

/-- The writers fill the same bucket, and so far with the same. -/
structure Alike (w : Writer ν) (w' : Writer ν') : Prop where
  bucket : w.bucket = w'.bucket
  buckets : w.buckets = w'.buckets
  store : w.store.Alike w'.store

variable {w : Writer ν} {w' : Writer ν'}

theorem Alike.owns_eq (ha : w.Alike w') (key : UInt64) : w.owns key = w'.owns key := by
  rw [owns, owns, ha.bucket, ha.buckets]

variable [LawfulTable ν] [LawfulTable ν']

theorem Alike.put (ha : w.Alike w') (key value : UInt64) :
    (w.put key value).1 = (w'.put key value).1 ∧ (w.put key value).2.Alike (w'.put key value).2 := by
  obtain ⟨houtcome, hnext⟩ := ha.store.put key value
  rw [Writer.put, Writer.put, ha.owns_eq]
  split
  · exact ⟨houtcome, ha.bucket, ha.buckets, hnext⟩
  · rw [ha.bucket, ha.buckets]
    exact ⟨rfl, ha⟩

theorem Alike.step (ha : w.Alike w') (op : WriterOp) :
    (op.step w).1 = (op.step w').1 ∧ (op.step w).2.Alike (op.step w').2 := by
  cases op with
  | bucket => exact ⟨congrArg (WriterAnswer.count ∘ UInt64.toNat) ha.bucket, ha⟩
  | owns key => exact ⟨congrArg WriterAnswer.truth (ha.owns_eq key), ha⟩
  | put key value =>
      obtain ⟨houtcome, hnext⟩ := ha.put key value
      exact ⟨congrArg WriterAnswer.outcome houtcome, hnext⟩
  | size => exact ⟨congrArg WriterAnswer.count ha.store.size_eq, ha⟩

end Writer

/-! ## Split maps -/

namespace CountedShards

variable [Table ν UInt64 UInt64] [Table ν' UInt64 UInt64]

/-- The maps have as many buckets, and stores that are alike. -/
structure Alike (m : CountedShards ν) (m' : CountedShards ν') : Prop where
  buckets : m.buckets = m'.buckets
  stores : ∀ b, Option.Rel Counted.Alike (m.store? b) (m'.store? b)

variable {m : CountedShards ν} {m' : CountedShards ν'}

theorem Alike.of_store? (ha : m.Alike m') {b : UInt64} {s : Counted ν} {s' : Counted ν'} (hs : m.store? b = some s)
    (hs' : m'.store? b = some s') : s.Alike s' := by
  have hstore := ha.stores b
  rw [hs, hs'] at hstore
  cases hstore with
  | some hstore => exact hstore

theorem Alike.storeFor (ha : m.Alike m') (key : UInt64) : (m.storeFor key).Alike (m'.storeFor key) := by
  have hroute : m.bucketFor key = m'.bucketFor key := by rw [bucketFor, bucketFor, ha.buckets]
  exact ha.of_store? (hroute ▸ m.store?_bucketFor key) (m'.store?_bucketFor key)

theorem Alike.withStore (ha : m.Alike m') {b : UInt64} {s t : Counted ν} {s' t' : Counted ν'} (hs : m.store? b = some s)
    (hs' : m'.store? b = some s') (hnext : t.Alike t') : (m.withStore b t).Alike (m'.withStore b t') where
  buckets := ha.buckets
  stores c := by
    rw [store?_withStore hs, store?_withStore hs']
    split
    · exact .some hnext
    · exact ha.stores c

theorem Alike.size_eq (ha : m.Alike m') : m.size = m'.size := by
  have hsizes : m.stores.toList.map Counted.size = m'.stores.toList.map Counted.size := by
    refine List.ext_getElem (by simp [ha.buckets]) fun i hi hi' => ?_
    simp only [List.length_map, Vector.length_toList] at hi hi'
    simp only [List.getElem_map, Vector.getElem_toList]
    exact (ha.of_store? (store?_ofNat hi) (store?_ofNat hi')).size_eq
  rw [size, size, hsizes]

variable [LawfulTable ν] [LawfulTable ν']

theorem alike_withBuckets (hint hint' : Nat) (n : UInt64) :
    (withBuckets hint n : CountedShards ν).Alike (withBuckets hint' n : CountedShards ν') where
  buckets := rfl
  stores b := by
    rw [store?_withBuckets, store?_withBuckets]
    split
    · exact .some (Counted.alike_withCapacity _ _)
    · exact .none

theorem Alike.put (ha : m.Alike m') (key value : UInt64) :
    (m.put key value).1 = (m'.put key value).1 ∧ (m.put key value).2.Alike (m'.put key value).2 := by
  obtain ⟨houtcome, hnext⟩ := (ha.storeFor key).put key value
  have hroute : m.bucketFor key = m'.bucketFor key := by rw [bucketFor, bucketFor, ha.buckets]
  rw [put_eq, put_eq, hroute]
  exact ⟨houtcome, ha.withStore (hroute ▸ m.store?_bucketFor key) (m'.store?_bucketFor key) hnext⟩

theorem Alike.onWriter (ha : m.Alike m') {i : Nat} (hi : i < m.buckets.toNat) (hi' : i < m'.buckets.toNat)
    (op : WriterOp) :
    (m.onWriter ⟨i, hi⟩ op.step).1 = (m'.onWriter ⟨i, hi'⟩ op.step).1 ∧
      (m.onWriter ⟨i, hi⟩ op.step).2.Alike (m'.onWriter ⟨i, hi'⟩ op.step).2 := by
  have hstore := m.store?_writer ⟨i, hi⟩
  have hstore' := m'.store?_writer ⟨i, hi'⟩
  have hwriter : (m.writer ⟨i, hi⟩).Alike (m'.writer ⟨i, hi'⟩) := ⟨rfl, ha.buckets, ha.of_store? hstore hstore'⟩
  obtain ⟨hanswer, hnext⟩ := hwriter.step op
  rw [onWriter_eq, onWriter_eq]
  exact ⟨hanswer, ha.withStore hstore hstore' hnext.store⟩

theorem Alike.step (ha : m.Alike m') (op : CountedOp) :
    (op.step m).1 = (op.step m').1 ∧ (op.step m).2.Alike (op.step m').2 := by
  cases op with
  | put key value =>
      obtain ⟨houtcome, hnext⟩ := ha.put key value
      exact ⟨congrArg CountedAnswer.outcome houtcome, hnext⟩
  | get key => exact ⟨congrArg CountedAnswer.value ((ha.storeFor key).get? key), ha⟩
  | contains key => exact ⟨congrArg CountedAnswer.truth ((ha.storeFor key).contains_eq key), ha⟩
  | size => exact ⟨congrArg CountedAnswer.count ha.size_eq, ha⟩
  | writer i op =>
      by_cases hi : i < m.buckets.toNat
      · have hi' : i < m'.buckets.toNat := ha.buckets ▸ hi
        obtain ⟨hanswer, hnext⟩ := ha.onWriter hi hi' op
        rw [CountedOp.step_writer m ⟨i, hi⟩ op, CountedOp.step_writer m' ⟨i, hi'⟩ op]
        exact ⟨congrArg (fun a => CountedAnswer.writer (some a)) hanswer, hnext⟩
      · have hi' : ¬i < m'.buckets.toNat := ha.buckets ▸ hi
        rw [CountedOp.step, CountedOp.step, dif_neg hi, dif_neg hi']
        exact ⟨rfl, ha⟩

theorem Alike.run (ha : m.Alike m') (ops : List CountedOp) :
    (CountedOp.run m ops).1 = (CountedOp.run m' ops).1 ∧ (CountedOp.run m ops).2.Alike (CountedOp.run m' ops).2 := by
  induction ops generalizing m m' with
  | nil => exact ⟨rfl, ha⟩
  | cons op ops ih =>
      obtain ⟨hanswer, hnext⟩ := ha.step op
      obtain ⟨hanswers, hend⟩ := ih hnext
      exact ⟨congrArg₂ List.cons hanswer hanswers, hend⟩

end CountedShards
end ShardStore
