import ShardStore.Proofs.Counted.Shards
import ShardStore.Proofs.Sharded.Refusal

/-!
# All or nothing

In every kind of map, an operation that is refused changes nothing at all, and one that is not changes the entry of its key
and nothing else. What can be wrong is checked in a fixed order: first where the key goes, then what is there.
-/

namespace ShardStore

/-- Each operation that can be refused is refused just if its precondition fails, and does all or nothing. In a sharded map a
missing slot is reported before anything else. A counted store moves its count with its entries, and its size as far as 64
bits can count. The writer of a bucket does what the map does, but first sends away the keys of other buckets, be they there
or not. -/
theorem all_or_nothing {τ σ ν : Type} [Table τ Hash UInt64] [LawfulTable τ] [SteadyTable τ] [Table σ Hash Unit]
    [LawfulTable σ] [SteadyTable σ] [Table ν UInt64 UInt64] [LawfulTable ν] :
    (∀ (s : Store τ) (op : MapOp) e, op.effect? = some e →
      AllOrNothing e Store.get? Store.keys Store.size True (op.step s).1.Refused s (op.step s).2 ∧
      (op.step s).1 = (op.onCell (s.get? e.key)).1) ∧
    (∀ (s : KeySet σ) h,
      AllOrNothing (.drop h) KeySet.cell? KeySet.keys KeySet.size True ((s.delete h).1 ≠ .ok ()) s (s.delete h).2 ∧
      (s.contains h = false → (s.delete h).1 = .error (.absent h.toText)) ∧
      (s.contains h = false → AllOrNothing (.add h ()) KeySet.cell? KeySet.keys KeySet.size True False s (s.put h)) ∧
      (s.contains h = true → AllOrNothing (.change h ()) KeySet.cell? KeySet.keys KeySet.size True False s (s.put h))) ∧
    (∀ (m : Sharded τ) (op : MapOp) e, op.effect? = some e →
      let b := m.bucketFor e.key
      AllOrNothing e (fun n h => (n.slot? b).bind (·.get? h)) Sharded.keys Sharded.size ((m.slot? b).isSome = true)
        (op.step m).1.Refused m (op.step m).2 ∧
      (∀ c, c ≠ b → (op.step m).2.slot? c = m.slot? c) ∧
      (m.slot? b = none → (op.step m).1 = op.onMissing (m.missing b)) ∧
      ∀ s, m.slot? b = some s → (op.step m).1 = (op.step s).1) ∧
    (∀ hint ops key value,
      let s : Counted ν := (Counted.Op.run (.withCapacity hint) ops).2
      let s' := (s.put key value).2
      AllOrNothing (.add key value) Counted.get? Counted.keys Counted.entries True ((s.put key value).1 ≠ .ok ()) s s' ∧
      (s.contains key = true → (s.put key value).1 = .error (.present (toString key))) ∧
      ((s.put key value).1 = .ok () →
        s'.count = s.count + 1 ∧ (s.entries + 1 < UInt64.size → s'.size = s.size + 1))) ∧
    ∀ hint n ops key value,
      let m : CountedShards ν := (CountedOp.run (.withBuckets hint n) ops).2
      let b := m.bucketFor key
      let m' := (m.put key value).2
      AllOrNothing (.add key value) (fun n k => (n.store? b).bind (·.get? k)) CountedShards.keys CountedShards.entries True
        ((m.put key value).1 ≠ .ok ()) m m' ∧
      (∀ c, c ≠ b → m'.store? c = m.store? c) ∧ (m.put key value).1 = ((m.storeFor key).put key value).1 ∧
      ((m.put key value).1 = .ok () →
        (m'.storeFor key).count = (m.storeFor key).count + 1 ∧
          ((m.storeFor key).entries + 1 < UInt64.size → m'.size = m.size + 1)) ∧
      ∀ i : Fin m.buckets.toNat, (b = .ofNat i → m.onWriter i (·.put key value) = m.put key value) ∧
        (b ≠ .ofNat i → m.onWriter i (·.put key value) = (.error (.foreign key (.ofNat i) b), m)) := by
  refine ⟨fun s op e heffect => ?_, fun s h => ⟨s.allOrNothing_delete h, ?_, ?_, ?_⟩, ?_, ?_, ?_⟩
  · exact ⟨s.allOrNothing heffect, s.step_fst (MapOp.hash?_of_effect? heffect)⟩
  · intro hcontains
    rw [KeySet.contains_eq] at hcontains
    rw [KeySet.delete_eq, hcontains]
    rfl
  · intro hcontains
    rw [KeySet.contains_eq, Option.isSome_eq_false_iff, Option.isNone_iff_eq_none] at hcontains
    exact KeySet.allOrNothing_put (e := .add h ()) rfl hcontains
  · intro hcontains
    rw [KeySet.contains_eq, Option.isSome_iff_ne_none] at hcontains
    exact KeySet.allOrNothing_put (e := .change h ()) rfl hcontains
  · intro m op e heffect b
    have hsingle := MapOp.hash?_of_effect? heffect
    refine ⟨m.allOrNothing heffect, fun c hc => Sharded.slot?_step_of_ne hsingle hc, fun hslot => ?_, fun s hslot => ?_⟩
    · rw [Sharded.step_of_missing hsingle hslot]
    · rw [Sharded.step_of_live hsingle hslot, s.stepInSlot_fst]
  · intro hint ops key value s s'
    have hs : s.Counts := (Counted.counts_withCapacity hint).run ops
    refine ⟨s.allOrNothing_put key value, fun hcontains => ?_, fun hok => ?_⟩
    · rw [Counted.contains_eq, Option.isSome_iff_exists] at hcontains
      obtain ⟨old, hget⟩ := hcontains
      rw [Counted.put_of_present hget]
    · exact ⟨Counted.count_put hok, fun hfew => hs.size_put hfew hok⟩
  · intro hint n ops key value m b m'
    have hm : m.Counts :=
      CountedOp.run_keeps (fun _ key value hm => hm.put key value) (CountedShards.counts_withBuckets hint n) ops
    refine ⟨m.allOrNothing_put key value, fun c hc => ?_, ?_, fun hok => ⟨?_, fun hfew => ?_⟩, fun i => ⟨?_, ?_⟩⟩
    · rw [CountedShards.store?_put, if_neg hc.symm]
    · rw [CountedShards.put_eq]
    · rw [CountedShards.put_eq] at hok
      rw [CountedShards.storeFor_put, Counted.count_put hok]
    · exact CountedShards.size_put hm hfew hok
    · exact fun hroute => CountedShards.onWriter_put_of_owned hroute value
    · exact fun hroute => CountedShards.onWriter_put_of_foreign hroute value

/-- A hash that is there twice over, one whose slot is missing, one that is taken out, and a writer with a key that is there
but belongs to another bucket. -/
theorem refused_or_done_in_one_slot :
    let a := Hash.ofBytes [0, 2]
    let c := Hash.ofBytes [0, 1]
    let m : Sharded (EntryList Hash UInt64) :=
      (ShardedOp.run (.withBuckets 4 2) [.map (.putAll [a, c] 1), .removeBucket 0]).2
    let n : CountedShards (EntryList UInt64 UInt64) := (CountedOp.run (.withBuckets 4 2) [.put 4 1]).2
    ((MapOp.put c 5).step m).2 = m ∧
      ((MapOp.delete a).step m).1 = .outcome (.error (.noBucket 0 2)) ∧ ((MapOp.delete a).step m).2 = m ∧
      m.keys.Perm (c :: ((MapOp.delete c).step m).2.keys) ∧
      n.onWriter ⟨1, by decide⟩ (·.put 4 7) = (.error (.foreign 4 1 0), n) := by
  intro a c m n
  obtain ⟨-, -, hsharded, -, hcounted⟩ :=
    all_or_nothing (τ := EntryList Hash UInt64) (σ := EntryList Hash Unit) (ν := EntryList UInt64 UInt64)
  obtain ⟨hput, -⟩ := hsharded m (.put c 5) (.add c 5) rfl
  obtain ⟨hgone, -, hmissing, -⟩ := hsharded m (.delete a) (.drop a) rfl
  obtain ⟨hdelete, -⟩ := hsharded m (.delete c) (.drop c) rfl
  obtain ⟨-, -, -, -, hwriter⟩ := hcounted 4 2 [.put 4 1] 4 7
  have hpresent : (m.slot? (m.bucketFor c)).bind (·.get? c) ≠ none := by decide
  have hslot : (m.slot? (m.bucketFor c)).isSome = true := by decide
  have hremoved : m.slot? (m.bucketFor a) = none := Option.isNone_iff_eq_none.1 (by decide)
  have herror : m.missing (m.bucketFor a) = .noBucket 0 2 := by decide
  have hanswer : ((MapOp.delete a).step m).1 = .outcome (.error (.noBucket 0 2)) := herror ▸ hmissing hremoved
  refine ⟨hput.unchanged (hput.refused_iff.2 fun hallowed => hpresent hallowed.2), hanswer,
    hgone.unchanged (Or.inr ⟨_, hanswer⟩), ?_, ?_⟩
  · exact hdelete.keys fun hrefused => hdelete.refused_iff.1 hrefused ⟨hslot, hpresent⟩
  · exact (hwriter ⟨1, by decide⟩).2 (by decide)

end ShardStore
