import ShardStore.Proofs.Batch
import ShardStore.Proofs.Config.Sizes
import ShardStore.Proofs.Sharded.Removal

/-!
# Making maps and finding slots

A split map is made just if there can be blocks for it. From then on every hash and every key has its slot, unless that is taken
out.
-/

namespace ShardStore

/-! ## No slot is missed -/

theorem MapOp.kind_onCell {op : MapOp} {cell : Option UInt64} {e : StoreError}
    (herror : (op.onCell cell).1 = .outcome (.error e)) : e.kind ≠ .noBucket := by
  cases op <;> cases cell <;> cases herror <;> simp [StoreError.kind]

namespace Sharded

variable {τ : Type} [Table τ Hash UInt64] [LawfulTable τ] {m : Sharded τ} {e : StoreError}

/-- Where every hash has its slot, nothing is refused because a slot is missing, not in a batch either. -/
theorem kind_of_error (hslot : ∀ h, ∃ s, m.slot? (m.bucketFor h) = some s) {op : MapOp}
    (herror : (op.step m).1 = .outcome (.error e)) : e.kind ≠ .noBucket := by
  cases hop : op.hash? with
  | some h =>
      obtain ⟨s, hs⟩ := hslot h
      rw [step_of_live hop hs, s.stepInSlot_fst, s.step_fst hop] at herror
      exact MapOp.kind_onCell herror
  | none =>
      cases op <;> simp only [MapOp.hash?, reduceCtorEq] at hop
      case size | keys | walk => cases herror
      case putAll hs v =>
        obtain ⟨p, hlongest, -, hends⟩ := m.batch_ends hs v
        obtain ⟨rest, hrest⟩ := hlongest.begins
        have herror : (m.putAll hs v).1 = .error e := MapAnswer.outcome.inj herror
        cases rest with
        | nil =>
            rw [hends.done_iff.2 (by rw [← hrest, List.append_nil])] at herror
            cases herror
        | cons x rest =>
            obtain ⟨s, hs⟩ := hslot x
            rw [hends.stopped x rest hrest.symm, refusal, hs] at herror
            cases herror
            simp [StoreError.kind]

theorem routesOver_run {n : UInt16} {hint : Nat} {ops : List ShardedOp} (hops : ∀ b, .removeBucket b ∉ ops) :
    (ShardedOp.run (withBuckets hint n : Sharded τ) ops).2.RoutesOver (max n 1) where
  buckets := (ShardedOp.buckets_run _ ops).trans (atLeastOne_eq_max n)
  routed _ := if_neg (UInt16.pos_iff_ne_zero.1 (Sharded.positive _))
  slot h := by
    have hle := bucketFor_le (ShardedOp.run (withBuckets hint n : Sharded τ) ops).2 h
    rw [ShardedOp.buckets_run] at hle
    exact Option.isSome_iff_exists.1 ((ShardedOp.isSome_slot?_run_withBuckets hint n ops _).2 ⟨hle, hops _⟩)

end Sharded

/-- The error in an answer, be it of the map or of a writer. -/
def CountedAnswer.error? (answer : CountedAnswer) : Option StoreError :=
  match answer with
  | .outcome (.error e) | .writer (some (.outcome (.error e))) => some e
  | _ => none

section

variable {τ : Type} [Table τ UInt64 UInt64] {key value : UInt64} {e : StoreError}

theorem CountedAnswer.error?_outcome_eq_some {o : Outcome} : (outcome o).error? = some e ↔ o = .error e := by
  cases o <;> simp [error?]

theorem CountedAnswer.error?_writer_eq_some {o : Outcome} :
    (writer (some (.outcome o))).error? = some e ↔ o = .error e := by
  cases o <;> simp [error?]

theorem Counted.kind_put {s : Counted τ} (herror : (s.put key value).1 = .error e) : e.kind ≠ .noBucket := by
  rw [put_error herror]
  simp [StoreError.kind]

theorem Writer.kind_put {w : Writer τ} (herror : (w.put key value).1 = .error e) : e.kind ≠ .noBucket := by
  rw [put] at herror
  split at herror
  · exact Counted.kind_put herror
  · cases herror
    simp [StoreError.kind]

namespace CountedShards

variable {m : CountedShards τ}

theorem kind_of_error {op : CountedOp} (herror : (op.step m).1.error? = some e) : e.kind ≠ .noBucket := by
  cases op with
  | get | contains | size => cases herror
  | put key value =>
      have hput : (m.put key value).1 = .error e := CountedAnswer.error?_outcome_eq_some.1 herror
      rw [put_eq] at hput
      exact Counted.kind_put hput
  | writer i op =>
      by_cases hi : i < m.buckets.toNat
      · rw [CountedOp.step_writer m ⟨i, hi⟩, onWriter_eq] at herror
        cases op with
        | bucket | owns | size => cases herror
        | put key value => exact Writer.kind_put (CountedAnswer.error?_writer_eq_some.1 herror)
      · rw [CountedOp.step, dif_neg hi] at herror
        cases herror

theorem routesOver_run {n : UInt64} (hint : Nat) (ops : List CountedOp) :
    (CountedOp.run (withBuckets hint n : CountedShards τ) ops).2.RoutesOver (max n 1) where
  buckets := (CountedOp.buckets_run _ ops).trans (atLeastOneBucket_eq_max n)
  routed _ := if_neg (UInt64.pos_iff_ne_zero.1 (CountedShards.positive _))
  store key := ⟨_, store?_bucketFor _ key⟩

end CountedShards

end

/-- A map is made just if there can be blocks for it, with a slot more than it has buckets, and keeps them. Over any run that
takes no slot out, every hash and every key is routed to a bucket below the count, whose slot is there, and no operation on them,
nor a batch, ever finds that a bucket does not exist. -/
theorem routed_slots_always_there {τ σ : Type} [Table τ Hash UInt64] [LawfulTable τ] [Footprint τ] [Table σ UInt64 UInt64]
    [Footprint σ] (hint : UInt64) :
    (∀ n : UInt16, MadeIf (Sharded.Granted τ hint.toNat n)
      (fun made : Sharded τ => ∀ ops, (∀ b, .removeBucket b ∉ ops) →
        let m := (ShardedOp.run made ops).2
        m.RoutesOver (max n 1) ∧ m.slots.toList.length = max n.toNat 1 + 1 ∧ (∀ h, m.bucketFor h < m.buckets) ∧
          ∀ op e, (MapOp.step m op).1 = .outcome (.error e) → e.kind ≠ .noBucket)
      (Sharded.make? hint n)) ∧
    ∀ n : UInt64, MadeIf (CountedShards.Granted σ hint.toNat n)
      (fun made : CountedShards σ => ∀ ops,
        let m := (CountedOp.run made ops).2
        m.RoutesOver (max n 1) ∧ m.stores.toList.length = max n.toNat 1 + 1 ∧ (∀ key, m.bucketFor key < m.buckets) ∧
          ∀ op e, (CountedOp.step m op).1.error? = some e → e.kind ≠ .noBucket)
      (CountedShards.make? hint n) := by
  constructor
  · intro n
    refine (Sharded.madeIf_make? hint n).imp ?_
    rintro _ rfl ops hops m
    have hroutes : m.RoutesOver (max n 1) := Sharded.routesOver_run hops
    refine ⟨hroutes, ?_, m.bucketFor_lt, fun op e => Sharded.kind_of_error hroutes.slot⟩
    rw [Vector.length_toList, hroutes.buckets, UInt16.toNat_max, UInt16.toNat_one]
  · intro n
    refine (CountedShards.madeIf_make? hint n).imp ?_
    rintro _ rfl ops m
    have hroutes : m.RoutesOver (max n 1) := CountedShards.routesOver_run _ ops
    refine ⟨hroutes, ?_, fun key => UInt64.lt_iff_toNat_lt.2 (m.bucketFor_lt key), fun op e => CountedShards.kind_of_error⟩
    rw [Vector.length_toList, hroutes.buckets, UInt64.toNat_max, UInt64.toNat_one]

/-- The largest number of buckets, and the smallest. -/
theorem routed_in_largest_and_smallest :
    let hint : UInt64 := 4
    let h := Hash.ofBytes [255, 255]
    let ops : List ShardedOp := [.map (.put h 1), .putAllIn 65535 [h, h] 2, .map (.delete h)]
    let ops' : List CountedOp := [.put 5 1, .put 5 2]
    Sharded.Granted (EntryList Hash UInt64) hint.toNat 65535 ∧ CountedShards.Granted (EntryList UInt64 UInt64) hint.toNat 0 ∧
      (∀ b, .removeBucket b ∉ ops) ∧
      ∃ (made : Sharded (EntryList Hash UInt64)) (made' : CountedShards (EntryList UInt64 UInt64)),
        Sharded.make? hint 65535 = .ok made ∧ CountedShards.make? hint 0 = .ok made' ∧
          let m := (ShardedOp.run made ops).2
          let m' := (CountedOp.run made' ops').2
          m.RoutesOver 65535 ∧ m.slots.toList.length = 65536 ∧ m'.RoutesOver 1 ∧ m'.stores.toList.length = 2 := by
  intro hint h ops ops'
  have hgranted : Sharded.Granted (EntryList Hash UInt64) hint.toNat 65535 := by decide
  have hgranted' : CountedShards.Granted (EntryList UInt64 UInt64) hint.toNat 0 := by decide
  have hops : ∀ b, .removeBucket b ∉ ops := by simp [ops]
  obtain ⟨hall, hall'⟩ :=
    routed_slots_always_there (τ := EntryList Hash UInt64) (σ := EntryList UInt64 UInt64) hint
  obtain ⟨made, hmade, hruns⟩ := (hall 65535).done hgranted
  obtain ⟨made', hmade', hruns'⟩ := (hall' 0).done hgranted'
  obtain ⟨hroutes, hlength, -⟩ := hruns ops hops
  obtain ⟨hroutes', hlength', -⟩ := hruns' ops'
  have hmax : max (65535 : UInt16) 1 = 65535 := by decide
  have hmax' : max (0 : UInt64) 1 = 1 := by decide
  rw [hmax] at hroutes
  rw [hmax'] at hroutes'
  exact ⟨hgranted, hgranted', hops, made, made', hmade, hmade', hroutes, hlength.trans (by simp), hroutes',
    hlength'.trans (by simp)⟩

/-- No block can be had for half as many buckets as there are words, and none for as many entries as there are words. -/
theorem too_large_to_make :
    let half := UInt64.ofNat (2 ^ 63)
    let most := UInt64.ofNat (2 ^ 64 - 1)
    half.toNat < 2 ^ 64 - 1 ∧
      (CountedShards.make? 0 half : Except MakeFault (CountedShards (Std.HashMap UInt64 UInt64))) =
        .error (.memory .array) ∧
      ∃ f, (Sharded.make? most 1 : Except MakeFault (Sharded (Std.HashMap Hash UInt64))) = .error (.memory f) :=
  ⟨by decide, by cbv, (Sharded.madeIf_make? _ _).fault (by decide)⟩

end ShardStore
