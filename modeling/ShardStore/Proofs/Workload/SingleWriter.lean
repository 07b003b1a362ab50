import ShardStore.Proofs.Counted.Placement
import ShardStore.Proofs.Making
import ShardStore.Proofs.Workload.Chunks
import ShardStore.Program

/-!
# Filling a counted map by the writers of its buckets

The numbers below a bound fall into the buckets by their remainders. Each writer goes through the numbers of its bucket, so each
number is put once, and nothing is refused.
-/

namespace ShardStore

variable {items step key k buckets workers : Nat}

/-! ## The keys of a bucket -/

theorem mem_bucketKeys (hstep : 0 < step) :
    k ∈ bucketKeys items step key ↔ key ≤ k ∧ k < items ∧ k % step = key % step := by
  fun_induction bucketKeys items step key with
  | case1 key hgo ih =>
      rw [List.mem_cons, ih, Nat.add_mod_right]
      constructor
      · rintro (rfl | ⟨hle, hlt, hmod⟩)
        · exact ⟨Nat.le_refl _, hgo.2, rfl⟩
        · exact ⟨by omega, hlt, hmod⟩
      · rintro ⟨hle, hlt, hmod⟩
        by_cases hk : k = key
        · exact .inl hk
        · -- a multiple of the step lies between the two
          have hdvd : step ∣ k - key := (Nat.modEq_iff_dvd' hle).1 hmod.symm
          have hfar : step ≤ k - key := Nat.le_of_dvd (by omega) hdvd
          exact .inr ⟨by omega, hlt, hmod⟩
  | case2 key hstop =>
      constructor
      · intro hk
        cases hk
      · rintro ⟨hle, hlt, -⟩
        exact absurd ⟨hstep, by omega⟩ hstop

theorem nodup_bucketKeys (items step key : Nat) : (bucketKeys items step key).Nodup := by
  fun_induction bucketKeys items step key with
  | case1 key hgo ih =>
      refine List.nodup_cons.2 ⟨fun hmem => ?_, ih⟩
      have hle := ((mem_bucketKeys hgo.1).1 hmem).1
      omega
  | case2 => exact List.nodup_nil

/-- The loop over the keys of a bucket, in words: it goes on from a key in steps as long as the key is below `items`. Where the
next key does not fit in a word, there is no way on. -/
inductive LoopEnds (items step : UInt64) : UInt64 → List UInt64 → Prop
  | stop {key : UInt64} (hstop : ¬key < items) : LoopEnds items step key []
  | next {key : UInt64} {keys : List UInt64} (hkey : key < items) (hfits : key.toNat + step.toNat < UInt64.size)
      (hrest : LoopEnds items step (key + step) keys) : LoopEnds items step key (key :: keys)

theorem ofNat_lt_ofNat (hkey : key < UInt64.size) (hitems : items < UInt64.size) :
    UInt64.ofNat key < UInt64.ofNat items ↔ key < items := by
  rw [UInt64.lt_iff_toNat_lt, UInt64.toNat_ofNat', UInt64.toNat_ofNat', Nat.mod_eq_of_lt hkey, Nat.mod_eq_of_lt hitems]

/-- The loop ends, and no key that it comes to is too large for a word. -/
theorem loopEnds_bucketKeys {step : UInt64} (hstep : 0 < step.toNat) (hfits : items + step.toNat ≤ UInt64.size)
    (hkey : key < UInt64.size) :
    LoopEnds (.ofNat items) step (.ofNat key) ((bucketKeys items step.toNat key).map .ofNat) := by
  have hitems : items < UInt64.size := by omega
  fun_induction bucketKeys items step.toNat key with
  | case1 key hgo ih =>
      have hnext : UInt64.ofNat key + step = .ofNat (key + step.toNat) := by rw [UInt64.ofNat_add, UInt64.ofNat_toNat]
      have hword : (UInt64.ofNat key).toNat = key := UInt64.toNat_ofNat_of_lt' hkey
      refine .next ((ofNat_lt_ofNat hkey hitems).2 hgo.2) (by omega) ?_
      rw [hnext]
      exact ih (by omega)
  | case2 key hstop =>
      exact .stop fun hlt => hstop ⟨hstep, (ofNat_lt_ofNat hkey hitems).1 hlt⟩

/-! ## The work of the writers -/

/-- The puts of each worker: for each of its writers, the keys of the bucket. -/
def writerPuts (items buckets workers : Nat) : List (List (Nat × Nat)) :=
  (writerChunks buckets workers).map fun part => part.flatMap fun bucket => (bucketKeys items buckets bucket).map (bucket, ·)

theorem flatten_writerPuts (items buckets workers : Nat) :
    (writerPuts items buckets workers).flatten = countedPuts items buckets workers := by
  rw [writerPuts, countedPuts]
  induction writerChunks buckets workers with
  | nil => rfl
  | cons part parts ih => rw [List.map_cons, List.flatten_cons, ih, List.flatten_cons, List.flatMap_append]

theorem countedPuts_eq (hworkers : 0 < workers) (items buckets : Nat) :
    countedPuts items buckets workers =
      (List.range buckets).flatMap fun bucket => (bucketKeys items buckets bucket).map (bucket, ·) := by
  have hwhole := (sharedOut_chunks hworkers (List.range buckets)).whole
  rw [List.length_range] at hwhole
  rw [countedPuts, writerChunks, hwhole]

theorem mem_countedPuts (hbuckets : 0 < buckets) (hworkers : 0 < workers) {p : Nat × Nat} :
    p ∈ countedPuts items buckets workers ↔ p.1 = p.2 % buckets ∧ p.2 < items := by
  obtain ⟨bucket, key⟩ := p
  simp only [countedPuts_eq hworkers, List.mem_flatMap, List.mem_range, List.mem_map, Prod.mk.injEq, mem_bucketKeys hbuckets]
  constructor
  · rintro ⟨b, hb, k, ⟨-, hk, hmod⟩, rfl, rfl⟩
    rw [hmod, Nat.mod_eq_of_lt hb]
    exact ⟨rfl, hk⟩
  · rintro ⟨rfl, hk⟩
    exact ⟨_, Nat.mod_lt _ hbuckets, key, ⟨Nat.mod_le _ _, hk, (Nat.mod_mod _ _).symm⟩, rfl, rfl⟩

/-- The buckets have each number below `items` once. -/
theorem keys_countedPuts_perm (hbuckets : 0 < buckets) (hworkers : 0 < workers) (items : Nat) :
    ((countedPuts items buckets workers).map Prod.snd).Perm (List.range items) := by
  have hnodup : ((countedPuts items buckets workers).map Prod.snd).Nodup := by
    rw [countedPuts_eq hworkers, List.map_flatMap]
    simp only [List.map_map, Function.comp_def, List.map_id']
    refine List.nodup_flatMap.2 ⟨fun b _ => nodup_bucketKeys _ _ _, ?_⟩
    refine List.nodup_range.imp_of_mem fun {b c} hb hc hne k hk hk' => hne ?_
    rw [List.mem_range] at hb hc
    have hmod := ((mem_bucketKeys hbuckets).1 hk).2.2
    have hmod' := ((mem_bucketKeys hbuckets).1 hk').2.2
    rw [← Nat.mod_eq_of_lt hb, ← Nat.mod_eq_of_lt hc, ← hmod, hmod']
  refine (List.perm_ext_iff_of_nodup hnodup List.nodup_range).2 fun k => ?_
  rw [List.mem_map, List.mem_range]
  constructor
  · rintro ⟨p, hp, rfl⟩
    exact ((mem_countedPuts hbuckets hworkers).1 hp).2
  · intro hk
    exact ⟨(k % buckets, k), (mem_countedPuts hbuckets hworkers).2 ⟨rfl, hk⟩, rfl⟩

/-! ## The fill -/

variable {τ : Type} [Table τ UInt64 UInt64] {n : UInt64} {keys : List Nat} {fill : Fill (CountedShards τ)} {p : Nat × Nat}

/-- The put of an absent number through its writer is done. -/
theorem Fill.putNumber_of_absent [LawfulTable τ] (hroute : (fill.store.bucketFor (.ofNat p.2)).toNat = p.1)
    (habsent : fill.store.get? (.ofNat p.2) = none) :
    fill.putNumber p = ⟨(fill.store.put (.ofNat p.2) (.ofNat p.2)).2, fill.refused⟩ := by
  obtain ⟨m, refused⟩ := fill
  have hp : p.1 < m.buckets.toNat := hroute ▸ m.bucketFor_lt (.ofNat p.2)
  have howned : m.bucketFor (.ofNat p.2) = .ofNat p.1 := by rw [← hroute, UInt64.ofNat_toNat]
  have hput : m.onWriter ⟨p.1, hp⟩ (·.put (.ofNat p.2) (.ofNat p.2)) = m.put (.ofNat p.2) (.ofNat p.2) :=
    CountedShards.onWriter_put_of_owned howned _
  have hok : (m.put (.ofNat p.2) (.ofNat p.2)).1 = .ok () := by
    rw [CountedShards.put_fst, habsent]
    rfl
  rw [Fill.putNumber, dif_pos hp]
  simp only [hput]
  split
  · next heq => rw [heq]
  · next heq => rw [heq] at hok; cases hok

/-- What holds of a fill that has had a put of each of these numbers. -/
structure Fill.HavingKeys (fill : Fill (CountedShards τ)) (n : UInt64) (keys : List Nat) : Prop where
  buckets : fill.store.buckets = n
  get?_eq : ∀ key, fill.store.get? key = if key.toNat ∈ keys then some key else none
  routed : fill.store.Routed
  counts : fill.store.Counts
  refused : fill.refused = 0

/-- A fill with the numbers below `items` and nothing else, each with itself. -/
structure Fill.Complete (fill : Fill (CountedShards τ)) (items : Nat) : Prop where
  refused : fill.refused = 0
  get?_eq : ∀ key, fill.store.get? key = if key.toNat < items then some key else none
  keys : fill.store.keys.Perm ((List.range items).map .ofNat)
  spare : ∃ s, fill.store.store? fill.store.buckets = some s ∧ s.keys = [] ∧ s.size = 0
  length : fill.store.size = items
  found : (List.range items).countP (fun key => fill.store.get? (.ofNat key) = some (.ofNat key)) = items

theorem Fill.HavingKeys.perm {keys' : List Nat} (hf : fill.HavingKeys n keys) (hperm : keys.Perm keys') :
    fill.HavingKeys n keys' where
  buckets := hf.buckets
  get?_eq key := by simp only [hf.get?_eq, hperm.mem_iff]
  routed := hf.routed
  counts := hf.counts
  refused := hf.refused

variable [LawfulTable τ]

theorem Fill.havingKeys_of_withBuckets (hint : Nat) (n : UInt64) :
    HavingKeys (τ := τ) { store := .withBuckets hint n } (atLeastOneBucket n) [] where
  buckets := rfl
  get?_eq key := by
    have hnone : ¬((CountedShards.withBuckets hint n : CountedShards τ).get? key).isSome = true := by
      rw [← (CountedShards.routed_withBuckets hint n).mem_keys_iff]
      intro hkey
      obtain ⟨b, s, hs, hkey⟩ := CountedShards.mem_keys_iff.1 hkey
      rw [CountedShards.keys_of_withBuckets hs] at hkey
      cases hkey
    simpa using hnone
  routed := CountedShards.routed_withBuckets hint n
  counts := CountedShards.counts_withBuckets hint n
  refused := rfl

theorem Fill.HavingKeys.put (hf : fill.HavingKeys n keys) (hbucket : p.1 = p.2 % n.toNat) (hword : p.2 < UInt64.size)
    (hnew : p.2 ∉ keys) : (fill.putNumber p).HavingKeys n (p.2 :: keys) := by
  have hkey : (UInt64.ofNat p.2).toNat = p.2 := UInt64.toNat_ofNat_of_lt' hword
  have hroute : (fill.store.bucketFor (.ofNat p.2)).toNat = p.1 := by
    rw [CountedShards.bucketFor, numberBucket, UInt64.toNat_mod, hf.buckets, hkey, hbucket]
  have habsent : fill.store.get? (.ofNat p.2) = none := by rw [hf.get?_eq, hkey, if_neg hnew]
  rw [Fill.putNumber_of_absent hroute habsent]
  refine ⟨(CountedShards.buckets_put ..).trans hf.buckets, fun key => ?_, hf.routed.put _ _, hf.counts.put _ _, hf.refused⟩
  rw [CountedShards.get?_put, habsent, hf.get?_eq]
  by_cases hsame : UInt64.ofNat p.2 = key
  · subst hsame
    simp [hkey]
  · have hother : key.toNat ≠ p.2 := fun heq => hsame (by rw [← heq, UInt64.ofNat_toNat])
    simp [hsame, hother]

theorem Fill.HavingKeys.puts (hf : fill.HavingKeys n keys) {puts : List (Nat × Nat)}
    (hputs : ∀ p ∈ puts, p.1 = p.2 % n.toNat ∧ p.2 < UInt64.size) (hnodup : ((puts.map Prod.snd).reverse ++ keys).Nodup) :
    (puts.foldl Fill.putNumber fill).HavingKeys n ((puts.map Prod.snd).reverse ++ keys) := by
  induction puts generalizing fill keys with
  | nil => exact hf
  | cons p puts ih =>
      obtain ⟨⟨hbucket, hword⟩, hrest⟩ := List.forall_mem_cons.1 hputs
      rw [List.map_cons, List.reverse_cons, List.append_assoc] at hnodup ⊢
      have hnew : p.2 ∉ keys := (List.nodup_cons.1 (List.nodup_append.1 hnodup).2.1).1
      exact ih (hf.put hbucket hword hnew) hrest hnodup

theorem Fill.HavingKeys.complete (hf : fill.HavingKeys n (List.range items)) (hitems : items < UInt64.size) :
    fill.Complete items := by
  have hget : ∀ key, fill.store.get? key = if key.toNat < items then some key else none := fun key => by
    simp only [hf.get?_eq, List.mem_range]
  have hword : ∀ key ∈ List.range items, (UInt64.ofNat key).toNat = key := fun key hkey =>
    UInt64.toNat_ofNat_of_lt' (Nat.lt_trans (List.mem_range.1 hkey) hitems)
  have hkeys : fill.store.keys.Perm ((List.range items).map .ofNat) := by
    have hnodup : ((List.range items).map UInt64.ofNat).Nodup :=
      List.nodup_range.map_on fun j hj k hk hsame => by rw [← hword j hj, hsame, hword k hk]
    refine (List.perm_ext_iff_of_nodup hf.routed.keys_nodup hnodup).2 fun key => ?_
    rw [hf.routed.mem_keys_iff, hget, List.mem_map]
    constructor
    · intro hkey
      have hlt : key.toNat < items := by
        by_contra hge
        rw [if_neg hge] at hkey
        cases hkey
      exact ⟨key.toNat, List.mem_range.2 hlt, UInt64.ofNat_toNat⟩
    · rintro ⟨k, hk, rfl⟩
      rw [hword k hk, if_pos (List.mem_range.1 hk)]
      rfl
  have hentries : fill.store.entries = items := by
    rw [CountedShards.entries_eq_length, hkeys.length_eq, List.length_map, List.length_range]
  have hwell : fill.store.WellFilled := CountedShards.wellFilled hf.routed hf.counts (hentries ▸ hitems)
  refine ⟨hf.refused, hget, hkeys, ?_, ?_, ?_⟩
  · obtain ⟨s, hs, hempty⟩ := hwell.spare
    refine ⟨s, hs, hempty, ?_⟩
    rw [hwell.counted _ _ hs]
    exact (Table.length_keys s.table).symm.trans (congrArg List.length hempty)
  · rw [hf.counts.size_eq (hentries ▸ hitems), hentries]
  · have hall : ∀ key ∈ List.range items, decide (fill.store.get? (.ofNat key) = some (.ofNat key)) = true := fun key hkey => by
      rw [hget, hword key hkey, if_pos (List.mem_range.1 hkey), decide_eq_true rfl]
    rw [List.countP_eq_length.2 hall, List.length_range]

/-! ## The workload -/

theorem Fill.complete_of_perm (hint : Nat) (hworkers : 0 < workers) (hitems : items < UInt64.size) {puts : List (Nat × Nat)}
    (hputs : puts.Perm (countedPuts items (atLeastOneBucket n).toNat workers)) :
    (puts.foldl Fill.putNumber { store := (.withBuckets hint n : CountedShards τ) }).Complete items := by
  have hbuckets : 0 < (atLeastOneBucket n).toNat := UInt64.lt_iff_toNat_lt.1 (atLeastOneBucket_pos n)
  have hkeys := (hputs.map Prod.snd).trans (keys_countedPuts_perm hbuckets hworkers items)
  have hback : ((puts.map Prod.snd).reverse ++ []).Perm (List.range items) := by
    rw [List.append_nil]
    exact (List.reverse_perm _).trans hkeys
  have hgood : ∀ p ∈ puts, p.1 = p.2 % (atLeastOneBucket n).toNat ∧ p.2 < UInt64.size := by
    intro p hp
    obtain ⟨hbucket, hkey⟩ := (mem_countedPuts hbuckets hworkers).1 (hputs.mem_iff.1 hp)
    exact ⟨hbucket, Nat.lt_trans hkey hitems⟩
  have hend := (havingKeys_of_withBuckets (τ := τ) hint n).puts hgood (hback.nodup_iff.2 List.nodup_range)
  exact (hend.perm hback).complete hitems

theorem bucket_writers {τ : Type} (m : CountedShards τ) :
    m.writers.toList.map (·.bucket.toNat) = List.range m.buckets.toNat := by
  refine List.ext_getElem (by simp [CountedShards.writers]) fun i hi hi' => ?_
  rw [List.length_range] at hi'
  simp only [CountedShards.writers, List.getElem_map, Array.getElem_toList, Array.getElem_ofFn, List.getElem_range,
    CountedShards.writer]
  exact CountedShards.toNat_ofNat (Nat.lt_succ_of_lt hi')

/-- The size of the chunks of writers, calculated in words. -/
def chunkSize? (writers workers : Nat) : Except MakeFault Nat := do
  let share ← quotientUp? writers workers
  .ok (max share 1)

theorem chunkSize?_eq {writers : Nat} (hworkers : 0 < workers) (hwriters : writers < UInt64.size) :
    chunkSize? writers workers = .ok (chunkSize writers workers) := by
  rw [chunkSize?, quotientUp?_of_pos hworkers hwriters, chunkSize, Nat.max_comm]
  rfl

/-- Where there can be blocks for the map and for its writers, they are made. The chunks share out the writers, and the loop of
each writer ends within the words. However the puts of the workers follow one another, none is refused, and the map then has just
the numbers below `items`. -/
theorem single_writer_workload_in_any_order [Footprint τ] (size : Config.SingleWriter)
    (hn : max (size.buckets.getD defaultBuckets.toUInt64) 1 = n) (hworkers : 0 < workers)
    (hgranted : CountedShards.Granted τ size.length.toNat n) (hwriters : n.toNat * Writer.bytes ≤ mostBytes)
    (hfits : items + n.toNat ≤ 2 ^ 64) :
    ∃ m : CountedShards τ, size.make? = .ok m ∧ m.buckets = n ∧ m.writers? = .ok m.writers ∧
      let parts := chunks (chunkSize n.toNat workers) m.writers.toList
      chunkSize? n.toNat workers = .ok (chunkSize n.toNat workers) ∧ SharedOut m.writers.toList workers parts ∧
        writerChunks n.toNat workers = parts.map (·.map (·.bucket.toNat)) ∧
        (∀ w ∈ m.writers, LoopEnds (.ofNat items) n w.bucket ((bucketKeys items n.toNat w.bucket.toNat).map .ofNat)) ∧
        (∀ turns, Interleaves ((writerPuts items n.toNat workers).getD · []) turns →
          ((turns.map Prod.snd).foldl Fill.putNumber { store := m }).Complete items) ∧
        runSingleWriter m items workers = ⟨0, items, items⟩ := by
  let c := size.buckets.getD defaultBuckets.toUInt64
  let m : CountedShards τ := .withBuckets size.length.toNat c
  obtain rfl : n = atLeastOneBucket c := hn.symm.trans (atLeastOneBucket_eq_max c).symm
  have hpos : 0 < (atLeastOneBucket c).toNat := UInt64.lt_iff_toNat_lt.1 (atLeastOneBucket_pos c)
  have hitems : items < UInt64.size := Nat.lt_of_lt_of_le (Nat.lt_add_of_pos_right hpos) hfits
  have hmade : size.make? = .ok m := by
    rw [CountedShards.Granted, atLeastOneBucket_of_pos (atLeastOneBucket_pos c)] at hgranted
    exact (CountedShards.madeIf_make? size.length c).eq_ok hgranted
  have hlength : m.writers.toList.length = (atLeastOneBucket c).toNat := by
    simp [CountedShards.writers, m, CountedShards.withBuckets]
  refine ⟨m, hmade, rfl, if_pos hwriters, chunkSize?_eq hworkers (atLeastOneBucket c).toNat_lt, ?_, ?_, fun w hw => ?_,
    fun turns hturns => ?_, ?_⟩
  · have hparts := sharedOut_chunks hworkers m.writers.toList
    rwa [hlength] at hparts
  · rw [writerChunks, ← chunks_map, bucket_writers]
    rfl
  · have hloop := loopEnds_bucketKeys hpos hfits w.bucket.toNat_lt
    rwa [UInt64.ofNat_toNat] at hloop
  · have hputs := hturns.perm
    rw [flatten_writerPuts] at hputs
    exact Fill.complete_of_perm _ hworkers hitems hputs
  · have hend : ((countedPuts items m.buckets.toNat workers).foldl Fill.putNumber { store := m }).Complete items :=
      Fill.complete_of_perm _ hworkers hitems (.refl _)
    rw [runSingleWriter, hend.refused, hend.length, hend.found]

/-- One worker has two writers, and the other one has one. -/
theorem three_writers_of_two_workers :
    let size : Config.SingleWriter := ⟨4, some 3⟩
    let turns := [(0, 0, 0), (1, 2, 2), (0, 0, 3), (0, 1, 1), (1, 2, 5), (0, 1, 4)]
    max (size.buckets.getD defaultBuckets.toUInt64) 1 = 3 ∧ CountedShards.Granted (Std.HashMap UInt64 UInt64) size.length.toNat 3 ∧
      3 * Writer.bytes ≤ mostBytes ∧ 6 + (3 : UInt64).toNat ≤ 2 ^ 64 ∧ writerChunks 3 2 = [[0, 1], [2]] ∧
      ∃ m : CountedShards (Std.HashMap UInt64 UInt64), size.make? = .ok m ∧
        ((turns.map Prod.snd).foldl Fill.putNumber { store := m }).Complete 6 ∧ runSingleWriter m 6 2 = ⟨0, 6, 6⟩ := by
  intro size turns
  have hgranted : CountedShards.Granted (Std.HashMap UInt64 UInt64) size.length.toNat 3 :=
    CountedShards.granted_of_lt (by decide) (by decide)
  have hwriters : (3 : UInt64).toNat * Writer.bytes ≤ mostBytes := by decide
  obtain ⟨m, hmade, -, -, -, -, -, -, hall, hreport⟩ :=
    single_writer_workload_in_any_order size (show max _ 1 = 3 by decide) (show 0 < 2 by decide) hgranted hwriters
      (show 6 + (3 : UInt64).toNat ≤ 2 ^ 64 by decide)
  have hputs : writerPuts 6 3 2 = [[(0, 0), (0, 3), (1, 1), (1, 4)], [(2, 2), (2, 5)]] := by cbv
  refine ⟨by decide, hgranted, hwriters, by decide, by cbv, m, hmade, hall turns ?_, hreport⟩
  rw [show (3 : UInt64).toNat = 3 from rfl, hputs]
  rintro (_ | _ | i) <;> rfl

/-- There can be no block for as many stores as there are words, so the work does not begin, though there is nothing to put. -/
theorem too_many_writers :
    let n := UInt64.ofNat (2 ^ 64 - 1)
    let size : Config.SingleWriter := ⟨0, some n⟩
    0 + n.toNat ≤ 2 ^ 64 ∧
      (size.make? : Except MakeFault (CountedShards (Std.HashMap UInt64 UInt64))) = .error (.memory .array) ∧
      Program.singleWriterWork size 0 1 = { events := [], fault := some (.memory .array) } :=
  ⟨by decide, by cbv, by cbv⟩

end ShardStore
