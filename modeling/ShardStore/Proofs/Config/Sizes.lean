import ShardStore.Proofs.Config.Acceptance
import ShardStore.Proofs.Counted.Shards
import ShardStore.Proofs.Making
import ShardStore.Proofs.Sharded.Step

/-!
# Sizes that are given and sizes that are made

A bucket count of zero is refused, and the error names the first section that has one. The counts that pass are the bucket
counts of the stores that are made, where the default stands for one that is not given.
-/

namespace ShardStore

/-! ## Stores -/

namespace Sharded

variable {τ : Type}

/-- The map has so many buckets, and a slot for each hash. -/
structure RoutesOver (m : Sharded τ) (n : UInt16) : Prop where
  buckets : m.buckets = n
  routed : ∀ h : Hash, h.bucket? m.buckets = .ok (m.bucketFor h)
  slot : ∀ h, ∃ s, m.slot? (m.bucketFor h) = some s

theorem routesOver_withBuckets [Table τ Hash UInt64] (hint : Nat) {n : UInt16} (hn : n ≠ 0) :
    (withBuckets hint n : Sharded τ).RoutesOver n where
  buckets := if_neg hn
  routed _ := if_neg (UInt16.pos_iff_ne_zero.1 (atLeastOne_pos n))
  slot h := ⟨_, (slot?_withBuckets hint n _).trans (if_pos (bucketFor_le _ h))⟩

end Sharded

namespace CountedShards

variable {τ : Type}

/-- The map has so many buckets, and a store for each key. -/
structure RoutesOver (m : CountedShards τ) (n : UInt64) : Prop where
  buckets : m.buckets = n
  routed : ∀ key, numberBucket? key m.buckets = .ok (m.bucketFor key)
  store : ∀ key, ∃ s, m.store? (m.bucketFor key) = some s

theorem routesOver_withBuckets [Table τ UInt64 UInt64] (hint : Nat) {n : UInt64} (hn : n ≠ 0) :
    (withBuckets hint n : CountedShards τ).RoutesOver n where
  buckets := if_neg hn
  routed _ := if_neg (UInt64.pos_iff_ne_zero.1 (atLeastOneBucket_pos n))
  store key := ⟨_, store?_bucketFor _ key⟩

end CountedShards

namespace Config

variable {c : Config}

/-! ## Checks -/

/-- How it is answered that `c` was read: the error names the first section that gives no buckets. -/
structure CheckedAs (c : Config) (answer : Except Error Config) : Prop where
  split : answer = .error (.zeroBuckets .split) ↔ c.split.bind (·.buckets) = some 0
  singleWriter : answer = .error (.zeroBuckets .singleWriter) ↔
    c.split.bind (·.buckets) ≠ some 0 ∧ c.singleWriter.bind (·.buckets) = some 0
  accepted : answer = .ok c ↔ c.split.bind (·.buckets) ≠ some 0 ∧ c.singleWriter.bind (·.buckets) ≠ some 0

theorem checkedAs_check (c : Config) : c.CheckedAs c.check := by
  rw [check_eq]
  by_cases hsplit : c.split.bind (·.buckets) = some 0
  · rw [if_pos hsplit]
    exact ⟨by simp [hsplit], by simp [hsplit], by simp [hsplit]⟩
  · rw [if_neg hsplit]
    by_cases hwriter : c.singleWriter.bind (·.buckets) = some 0
    · rw [if_pos hwriter]
      exact ⟨by simp [hsplit], by simp [hsplit, hwriter], by simp [hwriter]⟩
    · rw [if_neg hwriter]
      exact ⟨by simp [hsplit], by simp [hwriter], by simp [hsplit, hwriter]⟩

/-- A text is no document, or its document no configuration, or the configuration of the document is checked. -/
theorem parse_cases (text : String) :
    (∃ e, parse text = .error (.malformed e)) ∨ (∃ f, parse text = .error (.fault f)) ∨
      ∃ doc c, Document.parse text = .ok doc ∧ ofDocument doc = .ok c ∧ parse text = c.check := by
  rw [parse]
  cases Document.parse text with
  | error e => exact .inl ⟨e, rfl⟩
  | ok doc =>
      refine .inr ?_
      simp only [ofDocumentChecked]
      cases hread : ofDocument doc with
      | error f => exact .inl ⟨f, rfl⟩
      | ok c => exact .inr ⟨doc, c, rfl, hread, rfl⟩

theorem hasBuckets_of_parse {text : String} (hparse : parse text = .ok c) : c.HasBuckets := by
  rcases parse_cases text with ⟨e, h⟩ | ⟨f, h⟩ | ⟨-, c', -, -, h⟩
  · cases hparse.symm.trans h
  · cases hparse.symm.trans h
  · obtain ⟨rfl, hbuckets⟩ := check_eq_ok_iff.1 (h.symm.trans hparse)
    exact hbuckets

/-! ## Stores of a configuration -/

/-- What is made of a configuration, as far as there can be blocks for it: stores of just the buckets that it gives, or of 1024,
and a map with just its limit. -/
structure MakesStores (c : Config) : Prop where
  /-- No bucket count has to be raised to one. -/
  unraised : c.splitSize.buckets.getD defaultBuckets ≠ 0 ∧
    c.singleWriterSize.buckets.getD defaultBuckets.toUInt64 ≠ 0
  split : ∀ (τ : Type) [Table τ Hash UInt64] [Footprint τ],
    let n := (c.split.bind (·.buckets)).getD 1024
    MadeIf (Sharded.Granted τ c.splitSize.length.toNat n) (fun m : Sharded τ => m.RoutesOver n) c.splitSize.make?
  singleWriter : ∀ (τ : Type) [Table τ UInt64 UInt64] [Footprint τ],
    let n := (c.singleWriter.bind (·.buckets)).getD 1024
    MadeIf (CountedShards.Granted τ c.singleWriterSize.length.toNat n) (fun m : CountedShards τ => m.RoutesOver n)
      c.singleWriterSize.make?
  synced : ∀ (τ κ ν : Type) [Table τ κ ν] [Footprint τ],
    MadeIf (Footprint.room τ c.syncedSize.limit.toNat ≤ mostBytes)
      (fun m : Bounded τ => (∀ s, c.synced = some s → s.limit ≠ 0 → m.limit = some s.limit.toNat) ∧
        (m.limit = none ↔ ∀ s, c.synced = some s → s.limit = 0))
      c.syncedSize.make?
  workers : ∀ cores, 1 ≤ cores → 1 ≤ c.work.workerCount cores

theorem splitSize_buckets (c : Config) : c.splitSize.buckets = c.split.bind (·.buckets) := by
  rw [splitSize]
  cases c.split <;> rfl

theorem singleWriterSize_buckets (c : Config) : c.singleWriterSize.buckets = c.singleWriter.bind (·.buckets) := by
  rw [singleWriterSize]
  cases c.singleWriter <;> rfl

theorem getD_ne_zero {κ : Type} [Zero κ] {o : Option κ} {d : κ} (ho : o ≠ some 0) (hd : d ≠ 0) : o.getD d ≠ 0 := by
  cases o with
  | none => exact hd
  | some k => exact fun hk => ho (congrArg some hk)

theorem limit_make {τ κ ν : Type} [Table τ κ ν] (s : Synced) :
    (s.make : Bounded τ).limit = if s.limit = 0 then none else some s.limit.toNat := by
  simp only [← UInt64.toNat_inj]
  rfl

theorem madeIf_synced {τ κ ν : Type} [Table τ κ ν] [Footprint τ] (c : Config) :
    MadeIf (Footprint.room τ c.syncedSize.limit.toNat ≤ mostBytes)
      (fun m : Bounded τ => (∀ s, c.synced = some s → s.limit ≠ 0 → m.limit = some s.limit.toNat) ∧
        (m.limit = none ↔ ∀ s, c.synced = some s → s.limit = 0))
      c.syncedSize.make? := by
  refine (Synced.madeIf_make? _).imp ?_
  rintro _ rfl
  rw [limit_make, syncedSize]
  cases c.synced with
  | none => simp
  | some s => simp

theorem one_le_workerCount (w : Workload) {cores : Nat} (hcores : 1 ≤ cores) : 1 ≤ w.workerCount cores := by
  rw [Workload.workerCount]
  split
  · exact hcores
  · next hw => exact Nat.pos_of_ne_zero fun h => hw (UInt64.toNat_inj.1 h)

theorem HasBuckets.makesStores (hc : c.HasBuckets) : c.MakesStores := by
  have hsplit : (c.split.bind (·.buckets)).getD defaultBuckets ≠ 0 := getD_ne_zero hc.split (by decide)
  have hwriter : (c.singleWriter.bind (·.buckets)).getD defaultBuckets.toUInt64 ≠ 0 :=
    getD_ne_zero hc.singleWriter (by decide)
  refine ⟨?_, fun τ _ _ => ?_, fun τ _ _ => ?_, fun τ κ ν _ _ => madeIf_synced c,
    fun cores hcores => one_le_workerCount _ hcores⟩
  · rw [splitSize_buckets, singleWriterSize_buckets]
    exact ⟨hsplit, hwriter⟩
  · rw [← splitSize_buckets] at hsplit ⊢
    refine (Split.madeIf_make? _).imp ?_
    rintro _ rfl
    exact Sharded.routesOver_withBuckets _ hsplit
  · rw [SingleWriter.make?, singleWriterSize_buckets]
    refine (CountedShards.madeIf_make? _ _).imp ?_
    rintro _ rfl
    exact CountedShards.routesOver_withBuckets _ hwriter

/-- A configuration that was read is refused just for a bucket count of zero, and what is made of one that is not refused has
just the sizes that it gives. -/
theorem sizes_made_as_given (text : String) :
    (∀ doc c, Document.parse text = .ok doc → ofDocument doc = .ok c → c.CheckedAs (parse text)) ∧
      ∀ c, parse text = .ok c → c.MakesStores := by
  refine ⟨fun doc c hdoc hread => ?_, fun c hparse => (hasBuckets_of_parse hparse).makesStores⟩
  have hparse : parse text = c.check := by rw [parse, hdoc]; simp only [ofDocumentChecked, hread]
  rw [hparse]
  exact checkedAs_check c

/-- Both counts are zero in one text, and the first is named; in another one count is the largest and one section is null, and
the stores and the map are made of hash tables. -/
theorem zero_and_largest_count :
    let zeros := "txmap:\n  env: dev\n  split:\n    length: 8\n    buckets: 0\n" ++
      "  single_writer:\n    length: 8\n    buckets: 0\n"
    let largest := "txmap:\n  env: dev\n  split:\n    length: 8\n    buckets: 65535\n  single_writer: ~\n"
    (∃ doc c, Document.parse zeros = .ok doc ∧ ofDocument doc = .ok c ∧ c.split.bind (·.buckets) = some 0 ∧
        parse zeros = .error (.zeroBuckets .split)) ∧
      ∃ c, parse largest = .ok c ∧
        (∃ m : Sharded (Std.HashMap Hash UInt64), c.splitSize.make? = .ok m ∧ m.RoutesOver 65535) ∧
        (∃ m : CountedShards (Std.HashMap UInt64 UInt64), c.singleWriterSize.make? = .ok m ∧ m.RoutesOver 1024) ∧
        ∃ m : Bounded (Std.HashMap UInt64 UInt64), c.syncedSize.make? = .ok m ∧ m.limit = none := by
  intro zeros largest
  have hzeros : parse zeros = .error (.zeroBuckets .split) := by decide +kernel
  have hlargest : parse largest = .ok { env := "dev", split := some ⟨8, some 65535⟩ } := by decide +kernel
  obtain ⟨-, hsplit, hwriter, hsynced, -⟩ := (sizes_made_as_given largest).2 _ hlargest
  obtain ⟨m, hmade, -, hlimit⟩ := (hsynced (Std.HashMap UInt64 UInt64) UInt64 UInt64).done (by decide)
  refine ⟨?_, _, hlargest, (hsplit _).done (Sharded.granted_of_lt (by decide) _),
    (hwriter _).done (CountedShards.granted_of_lt (by decide) (by decide)), m, hmade, hlimit.2 (by simp)⟩
  rcases parse_cases zeros with ⟨e, h⟩ | ⟨f, h⟩ | ⟨doc, c, hdoc, hread, -⟩
  · cases hzeros.symm.trans h
  · cases hzeros.symm.trans h
  · exact ⟨doc, c, hdoc, hread, ((sizes_made_as_given zeros).1 doc c hdoc hread).split.1 hzeros, hzeros⟩

/-- A text is accepted that gives as many buckets as there are words, and as large a limit. There can be no block for either. -/
theorem accepted_and_too_large :
    let text := "txmap:\n  env: dev\n  single_writer:\n    length: 0\n    buckets: 18446744073709551615\n" ++
      "  synced:\n    limit: 18446744073709551615\n"
    ∃ c, parse text = .ok c ∧ c.singleWriter.bind (·.buckets) = some 18446744073709551615 ∧
      (c.singleWriterSize.make? : Except MakeFault (CountedShards (Std.HashMap UInt64 UInt64))) =
        .error (.memory .array) ∧
      ∃ f, (c.syncedSize.make? : Except MakeFault (Bounded (Std.HashMap UInt64 UInt64))) = .error (.memory f) := by
  intro text
  let c : Config :=
    { env := "dev", singleWriter := some ⟨0, some 18446744073709551615⟩, synced := some ⟨18446744073709551615⟩ }
  have hparse : parse text = .ok c := by decide +kernel
  exact ⟨c, hparse, rfl, by cbv, (Bounded.madeIf_make? _).fault (by decide)⟩

end Config

end ShardStore
