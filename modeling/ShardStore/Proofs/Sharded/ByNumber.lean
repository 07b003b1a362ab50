import ShardStore.Proofs.Sharded.Removal

/-!
# Batches by number

A batch that is put into a slot by number is refused if the slot is missing, and otherwise is one for the store of the slot. If
its hashes belong there anyway, the batch that goes by routing does the same, and adds to an error the bucket that it comes from.
-/

namespace ShardStore

theorem Store.kind_putAll {τ : Type} [Table τ Hash UInt64] {s : Store τ} {hs : List Hash} {v : UInt64} {e : StoreError}
    (herror : (s.putAll hs v).1 = .error e) : e.kind = .present := by
  obtain ⟨x, -, rfl⟩ := putAll_error herror
  rfl

/-- In a state of a map that was empty at first, a slot is missing just if there never was one or it was taken out. -/
theorem ShardedOp.slot?_run_eq_none_iff {τ : Type} [Table τ Hash UInt64] [LawfulTable τ] (hint : Nat) (n : UInt16)
    (ops : List ShardedOp) (b : UInt16) :
    let m : Sharded τ := (run (.withBuckets hint n) ops).2
    m.slot? b = none ↔ m.buckets < b ∨ .removeBucket b ∈ ops := by
  intro m
  have hbuckets : m.buckets = atLeastOne n := buckets_run _ ops
  rw [← Option.not_isSome_iff_eq_none, isSome_slot?_run_withBuckets, hbuckets, not_and_or, not_not, UInt16.not_le]

namespace Sharded

variable {τ : Type} {m : Sharded τ} {b : UInt16} {s : Store τ}

/-- What is put into a slot last stays in it. -/
theorem withSlot_withSlot (m : Sharded τ) (b : UInt16) (o o' : Option (Store τ)) :
    (m.withSlot b o).withSlot b o' = m.withSlot b o' := by
  refine ext_slots rfl fun c => ?_
  rw [slot?_withSlot, slot?_withSlot, slot?_withSlot]
  split <;> rfl

variable [Table τ Hash UInt64]

/-! ## One slot -/

theorem putAllIn_of_missing (hslot : m.slot? b = none) (hs : List Hash) (v : UInt64) :
    m.putAllIn b hs v = (.error (m.missing b), m) :=
  tryOnSlot_of_missing hslot _

theorem putAllIn_of_slot (hslot : m.slot? b = some s) (hs : List Hash) (v : UInt64) :
    m.putAllIn b hs v = ((s.putAll hs v).1, m.withSlot b (some (s.putAll hs v).2)) := by
  rw [putAllIn, tryOnSlot_eq, hslot]

/-- What a batch does to the slot that it is put into: the store in the slot takes it, and no other slot changes. -/
structure WorksInSlot (m : Sharded τ) (b : UInt16) (hs : List Hash) (v : UInt64) : Prop where
  store : ∃ s, m.slot? b = some s ∧ (m.putAllIn b hs v).1 = (s.putAll hs v).1 ∧
    (m.putAllIn b hs v).2.slot? b = some (s.putAll hs v).2
  others : ∀ c, c ≠ b → (m.putAllIn b hs v).2.slot? c = m.slot? c
  buckets : (m.putAllIn b hs v).2.buckets = m.buckets
  /-- The slot is accepted: only a hash that is there already can be refused. -/
  kind : ∀ e, (m.putAllIn b hs v).1 = .error e → e.kind = .present

theorem worksInSlot (hslot : m.slot? b = some s) (hs : List Hash) (v : UInt64) : m.WorksInSlot b hs v := by
  have hle := le_buckets hslot
  have hwork := putAllIn_of_slot hslot hs v
  refine ⟨⟨s, hslot, congrArg Prod.fst hwork, ?_⟩, fun c hc => ?_, ?_, fun e herror => ?_⟩
  · rw [hwork, slot?_withSlot_of_le hle, if_pos rfl]
  · rw [hwork, slot?_withSlot_of_le hle, if_neg hc.symm]
  · rw [hwork]
    rfl
  · rw [hwork] at herror
    exact Store.kind_putAll herror

/-! ## By routing -/

variable [LawfulTable τ]

/-- A batch for one bucket, put hash by hash, is one batch for the store of the bucket. -/
theorem putAll_of_slot (hslot : m.slot? b = some s) {hs : List Hash} (hroute : ∀ h ∈ hs, m.bucketFor h = b) (v : UInt64) :
    m.putAll hs v = ((s.putAll hs v).1.mapError (.batch b.toUInt64), m.withSlot b (some (s.putAll hs v).2)) := by
  induction hs generalizing m s with
  | nil => rw [Store.putAll, withSlot_eq_self hslot]; rfl
  | cons h hs ih =>
      obtain ⟨hhead, htail⟩ := List.forall_mem_cons.1 hroute
      have hput : m.put h v = ((s.put h v).1, m.withSlot b (some (s.put h v).2)) := by
        rw [put, hhead, tryOnSlot_eq, hslot]
      cases hget : s.get? h with
      | some old =>
          rw [Store.put_of_present hget] at hput
          rw [putAll_of_put_error (congrArg Prod.fst hput), hput, hhead, Store.putAll_of_present hget]
          rfl
      | none =>
          have hdone : (s.put h v).1 = .ok () := by rw [Store.put_of_absent hget]
          have hnext : (m.withSlot b (some (s.put h v).2)).slot? b = some (s.put h v).2 := by
            rw [slot?_withSlot_of_le (le_buckets hslot), if_pos rfl]
          rw [putAll_of_put_ok ((congrArg Prod.fst hput).trans hdone), hput, ih hnext htail, withSlot_withSlot,
            Store.putAll_of_absent hget]

/-- Put by routing, a batch for one bucket leaves the map that it leaves put by number; an error names the bucket as well. -/
theorem putAll_eq_putAllIn {hs : List Hash} (hsome : hs ≠ []) (hroute : ∀ h ∈ hs, m.bucketFor h = b) (v : UInt64) :
    m.putAll hs v = ((m.putAllIn b hs v).1.mapError (.batch b.toUInt64), (m.putAllIn b hs v).2) := by
  cases hslot : m.slot? b with
  | some s => rw [putAll_of_slot hslot hroute, putAllIn_of_slot hslot]
  | none =>
      obtain ⟨h, hs, rfl⟩ := List.exists_cons_of_ne_nil hsome
      have hput : m.put h v = (.error (m.missing b), m) := by
        rw [put, hroute h (List.mem_cons_self ..), tryOnSlot_of_missing hslot]
      rw [putAll_of_put_error (congrArg Prod.fst hput), hput, hroute h (List.mem_cons_self ..), putAllIn_of_missing hslot]
      rfl

/-- A batch that is put into a slot by number, in any state of a map. Just if there is no such slot, or it was taken out, the
batch is refused and nothing changes; the slot behind the last bucket is one like all others. Otherwise the batch works in that
slot only. If it has hashes and all of them belong to the slot, it is the batch that goes by routing: both leave the same map and
are done or refused together, and the error of the routed one wraps that of the other. -/
theorem batch_by_number (hint : Nat) (n : UInt16) (past : List ShardedOp) (b : UInt16) (hs : List Hash) (v : UInt64) :
    let m : Sharded τ := (ShardedOp.run (withBuckets hint n) past).2
    let refused : Outcome := .error (.noBucket b.toUInt64 m.buckets.toUInt64)
    (m.putAllIn b hs v = (refused, m) ↔ m.buckets < b ∨ .removeBucket b ∈ past) ∧
    (b ≤ m.buckets → .removeBucket b ∉ past → m.WorksInSlot b hs v) ∧
    (hs ≠ [] → (∀ h ∈ hs, m.bucketFor h = b) →
      m.putAll hs v = ((m.putAllIn b hs v).1.mapError (.batch b.toUInt64), (m.putAllIn b hs v).2)) := by
  intro m refused
  have hgone : m.slot? b = none ↔ m.buckets < b ∨ .removeBucket b ∈ past := ShardedOp.slot?_run_eq_none_iff hint n past b
  refine ⟨?_, fun hle hpast => ?_, fun hsome hroute => putAll_eq_putAllIn hsome hroute v⟩
  · rw [← hgone]
    refine ⟨fun hrefused => ?_, fun hslot => putAllIn_of_missing hslot hs v⟩
    cases hslot : m.slot? b with
    | none => rfl
    | some s => cases (worksInSlot hslot hs v).kind _ (congrArg Prod.fst hrefused)
  · have hthere : m.slot? b ≠ none := fun hslot =>
      (hgone.1 hslot).elim (fun hlt => UInt16.not_le.2 hlt hle) hpast
    obtain ⟨s, hslot⟩ := Option.ne_none_iff_exists'.1 hthere
    exact worksInSlot hslot hs v

/-- Of two buckets the first is taken out. The second is given a batch that stops in the middle, and the slot behind it one that
is not for it. -/
theorem batches_by_number_and_by_routing :
    let a := Hash.ofBytes [0, 2]
    let c := Hash.ofBytes [0, 1]
    let d := Hash.ofBytes [0, 3]
    let past : List ShardedOp := [.map (.put c 1), .removeBucket 0]
    let m : Sharded (EntryList Hash UInt64) := (ShardedOp.run (withBuckets 4 2) past).2
    m.putAllIn 0 [] 7 = (.error (.noBucket 0 2), m) ∧ m.WorksInSlot 2 [a, d] 7 ∧
      (∀ h ∈ [d, c, d], m.bucketFor h = 1) ∧ (m.putAll [d, c, d] 7).1 = .error (.batch 1 (.present c.toText)) ∧
      (m.putAll [d, c, d] 7).2 = (m.putAllIn 1 [d, c, d] 7).2 := by
  intro a c d past m
  have htwo : m.buckets = 2 := by decide
  have hroute : ∀ h ∈ [d, c, d], m.bucketFor h = 1 := by decide
  have hrefused : m.putAllIn 0 [] 7 = (.error (.noBucket 0 m.buckets.toUInt64), m) :=
    (batch_by_number (τ := EntryList Hash UInt64) 4 2 past 0 [] 7).1.2 (.inr (by simp [past]))
  rw [htwo] at hrefused
  have hspare := (batch_by_number (τ := EntryList Hash UInt64) 4 2 past 2 [a, d] 7).2.1 (by decide) (by simp [past])
  have hsame : m.putAll [d, c, d] 7 =
      ((m.putAllIn 1 [d, c, d] 7).1.mapError (.batch 1), (m.putAllIn 1 [d, c, d] 7).2) :=
    (batch_by_number (τ := EntryList Hash UInt64) 4 2 past 1 [d, c, d] 7).2.2 (by simp) hroute
  have hstopped : (m.putAllIn 1 [d, c, d] 7).1 = .error (.present c.toText) := by decide
  refine ⟨hrefused, hspare, hroute, ?_, by rw [hsame]⟩
  rw [hsame, hstopped]
  rfl

end Sharded
end ShardStore
