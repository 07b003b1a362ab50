import ShardStore.Proofs.Sharded.Contents
import ShardStore.Proofs.Sharded.Isolation

/-!
# Slots that were taken out

A slot that is taken out takes its entries with it, and no operation brings it back. Hashes of its bucket are refused from
then on, each operation in its own way, while those of other buckets never notice.
-/

namespace ShardStore

namespace ShardedOp

variable {τ : Type} [Table τ Hash UInt64] [LawfulTable τ]

/-! ## Which slots are there -/

theorem isSome_slot?_step (m : Sharded τ) (op : ShardedOp) (b : UInt16) :
    ((op.step m).2.slot? b).isSome = true ↔ (m.slot? b).isSome = true ∧ op ≠ .removeBucket b := by
  have hash := Hash.ofBytes []
  cases op with
  | map op =>
      have hkept : ((op.step m).2.slot? b).isSome = (m.slot? b).isSome := m.isSome_slot?_step op b
      rw [show (ShardedOp.map op).step m = (.map (op.step m).1, (op.step m).2) from rfl, hkept]
      simp
  | putAllIn c hs v =>
      change ((m.putAllIn c hs v).2.slot? b).isSome = true ↔ _
      rw [← Sharded.isSome_cell? _ b hash, Sharded.cell?_putAllIn]
      split
      · next hc => simp [hc]
      · simp [Sharded.isSome_cell?]
  | removeBucket c =>
      change ((m.removeBucket c).2.slot? b).isSome = true ↔ _
      rw [← Sharded.isSome_cell? _ b hash, Sharded.cell?_removeBucket]
      split
      · next hc => simp [hc]
      · next hc => simp [hc, Sharded.isSome_cell?]
  | flatten => simp [step]

theorem isSome_slot?_run (m : Sharded τ) (ops : List ShardedOp) (b : UInt16) :
    ((run m ops).2.slot? b).isSome = true ↔ (m.slot? b).isSome = true ∧ .removeBucket b ∉ ops := by
  induction ops generalizing m with
  | nil => simp [run]
  | cons op ops ih =>
      rw [run_cons_snd, ih, isSome_slot?_step, List.mem_cons, not_or, and_assoc, ne_comm]

/-- A slot that was there at first is there until it is taken out. -/
theorem isSome_slot?_run_withBuckets (hint : Nat) (n : UInt16) (ops : List ShardedOp) (b : UInt16) :
    ((run (.withBuckets hint n : Sharded τ) ops).2.slot? b).isSome = true ↔
      b ≤ atLeastOne n ∧ .removeBucket b ∉ ops := by
  rw [isSome_slot?_run, Sharded.slot?_withBuckets]
  split <;> simp_all

end ShardedOp

namespace Sharded

variable {τ : Type} {m : Sharded τ} {b : UInt16} {h : Hash} {v : UInt64}

/-! ## What is said of a missing slot -/

theorem tryOnSlot_of_missing (hslot : m.slot? b = none) (work : Store τ → Outcome × Store τ) :
    m.tryOnSlot b work = (.error (m.missing b), m) := by
  rw [tryOnSlot_eq, hslot]

theorem onSlot_of_missing {α : Type} (hslot : m.slot? b = none) (work : Store τ → α × Store τ) :
    m.onSlot b work = (none, m) := by
  rw [onSlot_eq, hslot]

variable [Table τ Hash UInt64]

theorem putAll_append_of_ok {before rest : List Hash} (hok : (m.putAll before v).1 = .ok ()) :
    m.putAll (before ++ rest) v = (m.putAll before v).2.putAll rest v := by
  induction before generalizing m with
  | nil => rfl
  | cons h before ih =>
      cases hput : (m.put h v).1 with
      | ok =>
          rw [putAll_of_put_ok hput] at hok ⊢
          rw [List.cons_append, putAll_of_put_ok hput, ih hok]
      | error e =>
          rw [putAll_of_put_error hput] at hok
          cases hok

theorem putAll_append_of_error {before rest : List Hash} {e : StoreError} (herror : (m.putAll before v).1 = .error e) :
    m.putAll (before ++ rest) v = (.error e, (m.putAll before v).2) := by
  induction before generalizing m with
  | nil => cases herror
  | cons h before ih =>
      cases hput : (m.put h v).1 with
      | ok =>
          rw [putAll_of_put_ok hput] at herror ⊢
          rw [List.cons_append, putAll_of_put_ok hput, ih herror]
      | error e' =>
          rw [putAll_of_put_error hput] at herror ⊢
          rw [List.cons_append, putAll_of_put_error hput]
          exact congrArg (Prod.mk · _) herror

/-- What a map says of the hashes of a bucket whose slot is missing. -/
structure RefusesBucket (m : Sharded τ) (b : UInt16) : Prop where
  put : ∀ h v, m.bucketFor h = b → (m.put h v).1 = .error (.noBucket b.toUInt64 m.buckets.toUInt64)
  set : ∀ h v, m.bucketFor h = b → (m.set h v).1 = .error (.noBucket b.toUInt64 m.buckets.toUInt64)
  delete : ∀ h, m.bucketFor h = b → (m.delete h).1 = .error (.noBucket b.toUInt64 m.buckets.toUInt64)
  get? : ∀ h, m.bucketFor h = b → m.get? h = none
  contains : ∀ h, m.bucketFor h = b → m.contains h = false
  setIfPresent : ∀ h v, m.bucketFor h = b → (m.setIfPresent h v).1 = false
  setIfAbsent : ∀ h v, m.bucketFor h = b → (m.setIfAbsent h v).1 = false
  /-- A batch that comes to the first hash of the bucket stops there, and what it has put before stays. -/
  putAll_stops : ∀ before h after v, m.bucketFor h = b → (m.putAll before v).1 = .ok () →
    m.putAll (before ++ h :: after) v =
      (.error (.batch b.toUInt64 (.noBucket b.toUInt64 m.buckets.toUInt64)), (m.putAll before v).2)
  /-- A batch that does not come so far has stopped at one of the hashes before. -/
  putAll_stopped : ∀ before h after v e, m.bucketFor h = b → (m.putAll before v).1 = .error e →
    m.putAll (before ++ h :: after) v = (.error e, (m.putAll before v).2)
  putAllIn : ∀ hs v, m.putAllIn b hs v = (.error (.noBucket b.toUInt64 m.buckets.toUInt64), m)

variable [LawfulTable τ]

theorem putAll_of_missing (hslot : m.slot? b = none) {before after : List Hash} (hroute : m.bucketFor h = b)
    (hok : (m.putAll before v).1 = .ok ()) :
    m.putAll (before ++ h :: after) v = (.error (.batch b.toUInt64 (m.missing b)), (m.putAll before v).2) := by
  have hbuckets : (m.putAll before v).2.buckets = m.buckets := m.buckets_step (.putAll before v)
  have hroute' : (m.putAll before v).2.bucketFor h = b := by rw [bucketFor, hbuckets, ← bucketFor, hroute]
  have hslot' : (m.putAll before v).2.slot? b = none := by
    have hkept : ((m.putAll before v).2.slot? b).isSome = (m.slot? b).isSome := m.isSome_slot?_step (.putAll before v) b
    rwa [hslot, Option.isSome_none, Option.isSome_eq_false_iff, Option.isNone_iff_eq_none] at hkept
  have hput : (m.putAll before v).2.put h v = (.error (m.missing b), (m.putAll before v).2) := by
    rw [put, hroute', tryOnSlot_of_missing hslot', missing, hbuckets, missing]
  rw [putAll_append_of_ok hok, putAll_of_put_error (congrArg Prod.fst hput), hput, hroute']

theorem refusesBucket_of_missing (hslot : m.slot? b = none) : m.RefusesBucket b where
  put h v hroute := by rw [put, hroute, tryOnSlot_of_missing hslot, missing]
  set h v hroute := by rw [set, hroute, tryOnSlot_of_missing hslot, missing]
  delete h hroute := by rw [delete, hroute, tryOnSlot_of_missing hslot, missing]
  get? h hroute := by rw [get?_eq, hroute, hslot, Option.bind_none]
  contains h hroute := by rw [contains, hroute, hslot, Option.any_none]
  setIfPresent h v hroute := by
    rw [setIfPresent, hroute, onSlot_of_missing hslot]
    rfl
  setIfAbsent h v hroute := by
    rw [setIfAbsent, hroute, onSlot_of_missing hslot]
    rfl
  putAll_stops before h after v hroute hok := putAll_of_missing hslot hroute hok
  putAll_stopped before h after v e hroute herror := putAll_append_of_error herror
  putAllIn hs v := by rw [putAllIn, tryOnSlot_of_missing hslot, missing]

omit [LawfulTable τ] in
theorem agreeOff_removeBucket (m : Sharded τ) (b : UInt16) : AgreeOff (fun c _ => c = b) (m.removeBucket b).2 m where
  buckets := by rw [removeBucket_eq]; rfl
  cells c k hoff := by rw [cell?_removeBucket, if_neg fun hb => hoff hb.symm]

end Sharded

/-! ## Gone for good -/

namespace ShardedOp

variable {τ : Type} [Table τ Hash UInt64] [LawfulTable τ]

/-- Taking out a slot in any state of a map. A slot that is there goes with its entries, and nothing else does; one that is
not there changes nothing. In every later state the bucket is refused, and hashes of other buckets are answered as if the slot
had stayed, provided that no batch came upon a hash of the bucket. -/
theorem removeBucket_for_good (hint : Nat) (n : UInt16) (past : List ShardedOp) (b : UInt16) :
    let m : Sharded τ := (run (.withBuckets hint n) past).2
    (m.buckets < b ∨ .removeBucket b ∈ past → m.removeBucket b = (none, m)) ∧
    (b ≤ m.buckets → .removeBucket b ∉ past → ∃ s, m.slot? b = some s ∧ (m.removeBucket b).1 = some s ∧
      (∀ c, c ≠ b → (m.removeBucket b).2.slot? c = m.slot? c) ∧
      (m.removeBucket b).2.size + s.size = m.size) ∧
    ∀ ops,
      let left := (run (m.removeBucket b).2 ops).2
      left.buckets = m.buckets ∧ left.slot? b = none ∧ left.RefusesBucket b ∧
      ((∀ hs v, .map (.putAll hs v) ∈ ops → ∀ h ∈ hs, m.bucketFor h ≠ b) →
        ∀ (op : MapOp) h, op.hash? = some h → m.bucketFor h ≠ b →
          (op.step left).1 = (op.step (run m ops).2).1) := by
  intro m
  have hbuckets : m.buckets = atLeastOne n := buckets_run _ past
  have hthere := isSome_slot?_run_withBuckets (τ := τ) hint n past b
  refine ⟨?_, ?_, ?_⟩
  · intro hgone
    have hslot : m.slot? b = none := by
      rw [← Option.not_isSome_iff_eq_none, hthere, ← hbuckets]
      rintro ⟨hle, hpast⟩
      exact hgone.elim (fun hlt => absurd hle (UInt16.not_le.2 hlt)) hpast
    rw [Sharded.removeBucket_eq, Sharded.withSlot_eq_self hslot, hslot]
  · intro hle hpast
    obtain ⟨s, hslot⟩ := Option.isSome_iff_exists.1 (hthere.2 ⟨hbuckets ▸ hle, hpast⟩)
    rw [Sharded.removeBucket_eq]
    refine ⟨s, hslot, hslot, fun c hc => ?_, ?_⟩
    · rw [Sharded.slot?_withSlot_of_le hle, if_neg hc.symm]
    · rw [Sharded.size_eq_of_slot hslot, Nat.add_comm]
  · intro ops left
    have hremoved : (m.removeBucket b).2.buckets = m.buckets := buckets_step m (.removeBucket b)
    have hslot : left.slot? b = none := by
      rw [← Option.not_isSome_iff_eq_none, isSome_slot?_run]
      have hout : ((m.removeBucket b).2.slot? b).isSome = true ↔ _ := isSome_slot?_step m (.removeBucket b) b
      simp [hout]
    refine ⟨(buckets_run _ ops).trans hremoved, hslot, Sharded.refusesBucket_of_missing hslot, ?_⟩
    intro hops op h hsingle hroute
    have hsep : ∀ op ∈ ops, op.Separates (m.removeBucket b).2.buckets fun c _ => c = b := by
      intro op hop
      rw [hremoved]
      cases op with
      | map op =>
          cases op with
          | putAll hs v => exact hops hs v hop
          | _ => trivial
      | putAllIn c hs v =>
          by_cases hc : c = b
          · exact Or.inl fun _ _ => hc
          · exact Or.inr fun _ _ => hc
      | removeBucket | flatten => trivial
    refine ((m.agreeOff_removeBucket b).run hsep).answer_single hsingle ?_
    rw [Sharded.bucketFor, buckets_run, hremoved]
    exact hroute

/-- One of two slots is taken out. The other one goes on, and a batch that comes to the missing one stops there. -/
theorem removeBucket_of_two :
    let a := Hash.ofBytes [0, 2]
    let c := Hash.ofBytes [0, 1]
    let past : List ShardedOp := [.map (.putAll [a, c] 1)]
    let m : Sharded (EntryList Hash UInt64) := (run (.withBuckets 4 2) past).2
    let ops : List ShardedOp := [.map (.set c 2), .map (.set a 3), .putAllIn 0 [c] 4]
    let left := (run (m.removeBucket 0).2 ops).2
    (0 ≤ m.buckets ∧ .removeBucket 0 ∉ past ∧ ∃ s, (m.removeBucket 0).1 = some s) ∧
      ((run (.withBuckets 4 2 : Sharded (EntryList Hash UInt64)) [.removeBucket 0]).2.removeBucket 0).1 = none ∧
      (left.putAll [Hash.ofBytes [0, 3], a] 5).1 = .error (.batch 0 (.noBucket 0 2)) ∧
      ((MapOp.get c).step left).1 = ((MapOp.get c).step (run m ops).2).1 := by
  intro a c past m ops left
  have hle : 0 ≤ m.buckets := by decide
  have hpast : .removeBucket 0 ∉ past := by simp [past]
  have htwo : m.buckets = 2 := by decide
  have hroute : m.bucketFor c ≠ 0 := by decide
  have hops : ∀ hs v, .map (.putAll hs v) ∈ ops → ∀ h ∈ hs, m.bucketFor h ≠ 0 := by simp [ops]
  obtain ⟨-, htaken, hlater⟩ := removeBucket_for_good (τ := EntryList Hash UInt64) 4 2 past 0
  obtain ⟨s, -, hs, -⟩ := htaken hle hpast
  obtain ⟨hbuckets, -, hrefuses, hothers⟩ := hlater ops
  have htwice := (removeBucket_for_good (τ := EntryList Hash UInt64) 4 2 [.removeBucket 0] 0).1 (Or.inr (by simp))
  refine ⟨⟨hle, hpast, s, hs⟩, congrArg Prod.fst htwice, ?_, ?_⟩
  · have hstops := hrefuses.putAll_stops [Hash.ofBytes [0, 3]] a [] 5 (by decide) (by decide)
    rw [hbuckets, htwo] at hstops
    exact congrArg Prod.fst hstops
  · exact hothers hops (.get c) c rfl hroute

end ShardedOp
end ShardStore
