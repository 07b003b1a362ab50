import ShardStore.Proofs.Counted.Placement

/-!
# A split map and a store of numbers

A split map of numbers, filled through itself and through the writers of its buckets in any mixture, answers as one store does
that gets the same puts. What writers sent away that store never gets.
-/

namespace ShardStore

/-! ## What one store is told instead -/

/-- The same operation, but for what a writer does with a key of another bucket, or is asked about itself. -/
def CountedOp.plain? (n : UInt64) : CountedOp → Option Counted.Op
  | .put key value => some (.put key value)
  | .get key => some (.get key)
  | .contains key => some (.contains key)
  | .size => some .size
  | .writer i (.put key value) => if (numberBucket key n).toNat = i then some (.put key value) else none
  | .writer _ _ => none

/-- An answer without the mention that a writer gave it. -/
def CountedAnswer.plain : CountedAnswer → CountedAnswer
  | .writer (some (.outcome o)) => .outcome o
  | answer => answer

/-- The answer of a put that succeeded. -/
def CountedAnswer.accepted (answer : CountedAnswer) : Bool :=
  match answer.plain with
  | .outcome (.ok ()) => true
  | _ => false

theorem CountedAnswer.accepted_plain (answer : CountedAnswer) : answer.plain.accepted = answer.accepted := by
  cases answer with
  | writer answer => rcases answer with _ | (_ | _ | _) <;> rfl
  | outcome | value | truth | count => rfl

/-- An operation of one store, on a split map. -/
def Counted.Op.whole : Counted.Op → CountedOp
  | .put key value => .put key value
  | .get key => .get key
  | .contains key => .contains key
  | .size => .size

namespace CountedOp

variable {τ : Type} [Table τ UInt64 UInt64] {m : CountedShards τ} {op : CountedOp}

theorem step_of_plain {p : Counted.Op} (hp : op.plain? m.buckets = some p) :
    (op.step m).1.plain = (p.whole.step m).1 ∧ (op.step m).2 = (p.whole.step m).2 := by
  cases op with
  | put | get | contains | size =>
      cases hp
      exact ⟨rfl, rfl⟩
  | writer i op =>
      cases op with
      | put key value =>
          rw [plain?] at hp
          split at hp
          · next hroute =>
              cases hp
              rw [step_writer_put_of_owned hroute]
              exact ⟨rfl, rfl⟩
          · cases hp
      | bucket | owns | size => cases hp

/-- What one store is not told changes nothing, and is no put that succeeded. -/
theorem step_of_not_plain (hp : op.plain? m.buckets = none) : (op.step m).2 = m ∧ (op.step m).1.accepted = false := by
  cases op with
  | put | get | contains | size => cases hp
  | writer i op =>
      by_cases hi : i < m.buckets.toNat
      · cases op with
        | bucket | owns | size =>
            rw [step_writer m ⟨i, hi⟩, CountedShards.onWriter_eq]
            exact ⟨CountedShards.withStore_eq_self (m.store?_writer ⟨i, hi⟩), rfl⟩
        | put key value =>
            have hroute : m.bucketFor key ≠ .ofNat i := by
              intro hsame
              rw [plain?, show numberBucket key m.buckets = .ofNat i from hsame,
                CountedShards.toNat_ofNat (Nat.lt_succ_of_lt hi), if_pos rfl] at hp
              cases hp
            rw [step_writer_put_of_foreign (i := ⟨i, hi⟩) hroute]
            exact ⟨rfl, rfl⟩
      · rw [step, dif_neg hi]
        exact ⟨rfl, rfl⟩

end CountedOp

namespace CountedShards

variable {τ ν : Type} [Table τ UInt64 UInt64] [LawfulTable τ] [Table ν UInt64 UInt64] [LawfulTable ν]

/-! ## Puts that succeeded -/

theorem entries_put (m : CountedShards τ) (key value : UInt64) :
    (m.put key value).2.entries = m.entries + if (CountedAnswer.outcome (m.put key value).1).accepted then 1 else 0 := by
  have hput := m.allOrNothing_put key value
  cases hanswer : (m.put key value).1 with
  | ok => exact hput.size (not_not.2 hanswer)
  | error e =>
      have hrefused : (m.put key value).1 ≠ .ok () := fun hok => by cases hok.symm.trans hanswer
      rw [hput.unchanged hrefused]
      rfl

theorem entries_step (m : CountedShards τ) (op : CountedOp) :
    (op.step m).2.entries = m.entries + if (op.step m).1.accepted then 1 else 0 := by
  cases hp : op.plain? m.buckets with
  | none =>
      obtain ⟨hsame, hanswer⟩ := CountedOp.step_of_not_plain hp
      rw [hsame, hanswer]
      rfl
  | some p =>
      obtain ⟨hanswer, hnext⟩ := CountedOp.step_of_plain hp
      rw [hnext, ← CountedAnswer.accepted_plain, hanswer]
      cases p with
      | put key value => exact m.entries_put key value
      | get | contains | size => rfl

theorem entries_run (m : CountedShards τ) (ops : List CountedOp) :
    (CountedOp.run m ops).2.entries = m.entries + (CountedOp.run m ops).1.countP CountedAnswer.accepted := by
  induction ops generalizing m with
  | nil => rfl
  | cons op ops ih =>
      rw [CountedOp.run_cons, ih, entries_step, List.countP_cons, Nat.add_assoc, Nat.add_comm (List.countP ..)]

/-! ## One store with the same puts -/

/-- The map has its keys where they belong and counts them, and look-ups find what they find in the store. -/
structure Represents (m : CountedShards τ) (s : Counted ν) : Prop where
  routed : m.Routed
  counts : m.Counts
  counts' : s.Counts
  same : ∀ key, m.get? key = s.get? key

variable {m : CountedShards τ} {s : Counted ν}

theorem Represents.fresh (hint hint' : Nat) (n : UInt64) :
    (withBuckets hint n : CountedShards τ).Represents (Counted.withCapacity hint' : Counted ν) where
  routed := routed_withBuckets hint n
  counts := counts_withBuckets hint n
  counts' := Counted.counts_withCapacity hint'
  same key := by
    have hstore := (withBuckets hint n : CountedShards τ).store?_bucketFor key
    rw [store?_withBuckets] at hstore
    split at hstore
    · rw [get?_eq, store?_bucketFor, ← hstore]
      exact (LawfulTable.get?_withCapacity _ key).trans (LawfulTable.get?_withCapacity hint' key).symm
    · cases hstore

theorem Represents.put (hr : m.Represents s) (key value : UInt64) :
    (m.put key value).1 = (s.put key value).1 ∧ (m.put key value).2.Represents (s.put key value).2 := by
  refine ⟨?_, hr.routed.put key value, hr.counts.put key value, hr.counts'.put key value, fun k => ?_⟩
  · rw [put_fst, Counted.put_fst, hr.same]
  · rw [get?_put, Counted.get?_put, hr.same, hr.same]

theorem Represents.size_eq (hr : m.Represents s) (hfew : m.entries < UInt64.size) : m.size = s.size := by
  have hkeys : m.keys.Perm s.keys := by
    refine (List.perm_ext_iff_of_nodup hr.routed.keys_nodup s.nodup_keys).2 fun key => ?_
    rw [hr.routed.mem_keys_iff, hr.same, s.mem_keys_iff]
  have hentries : m.entries = s.entries := by
    rw [entries_eq_length, hkeys.length_eq]
    exact Table.length_keys s.table
  rw [hr.counts.size_eq hfew, hr.counts'.size_eq (hentries ▸ hfew), hentries]

theorem Represents.step_plain (hr : m.Represents s) {op : CountedOp} {p : Counted.Op} (hp : op.plain? m.buckets = some p) :
    (m.entries < UInt64.size → (op.step m).1.plain = (p.step s).1) ∧ (op.step m).2.Represents (p.step s).2 := by
  obtain ⟨hanswer, hnext⟩ := CountedOp.step_of_plain hp
  rw [hanswer, hnext]
  cases p with
  | put key value =>
      obtain ⟨houtcome, hrest⟩ := hr.put key value
      exact ⟨fun _ => congrArg CountedAnswer.outcome houtcome, hrest⟩
  | get key => exact ⟨fun _ => congrArg CountedAnswer.value (hr.same key), hr⟩
  | contains key =>
      refine ⟨fun _ => congrArg CountedAnswer.truth ?_, hr⟩
      rw [contains_eq, hr.same, s.contains_eq]
  | size => exact ⟨fun hfew => congrArg CountedAnswer.count (hr.size_eq hfew), hr⟩

theorem Represents.run (hr : m.Represents s) (ops : List CountedOp) :
    (CountedOp.run m ops).2.Represents (Counted.Op.run s (ops.filterMap (·.plain? m.buckets))).2 := by
  induction ops generalizing m s with
  | nil => exact hr
  | cons op ops ih =>
      have hbuckets : (op.step m).2.buckets = m.buckets := CountedOp.buckets_step m op
      cases hp : op.plain? m.buckets with
      | none =>
          have hsame := (CountedOp.step_of_not_plain hp).1
          rw [CountedOp.run_cons, List.filterMap_cons_none hp, hsame]
          exact ih hr
      | some p =>
          rw [CountedOp.run_cons, List.filterMap_cons_some hp, ← hbuckets]
          exact ih (hr.step_plain hp).2

theorem entries_run_le {before ops : List CountedOp} (hbefore : before <+: ops) :
    (CountedOp.run m before).2.entries ≤ (CountedOp.run m ops).2.entries := by
  obtain ⟨after, rfl⟩ := hbefore
  rw [CountedOp.run_append, entries_run _ after]
  exact Nat.le_add_right _ _

/-- A run that mixes puts into the map with puts by its writers, into buckets of their own and others. At its end all keys are
where they belong and counted, as many as puts have succeeded. All along, the next operation answers as one store does that got
the same puts, without those of keys that belong to another writer. -/
theorem fills_as_one_store (hint hint' : Nat) (n : UInt64) (ops : List CountedOp)
    (hfew : (CountedOp.run (withBuckets hint n : CountedShards τ) ops).2.entries < UInt64.size) :
    let m : CountedShards τ := withBuckets hint n
    let s : Counted ν := .withCapacity hint'
    (CountedOp.run m ops).2.buckets = atLeastOneBucket n ∧ (CountedOp.run m ops).2.WellFilled ∧
      (CountedOp.run m ops).2.size = (CountedOp.run m ops).1.countP CountedAnswer.accepted ∧
      ∀ before, before <+: ops → ∀ (op : CountedOp) (p : Counted.Op), op.plain? (atLeastOneBucket n) = some p →
        (op.step (CountedOp.run m before).2).1.plain =
          (p.step (Counted.Op.run s (before.filterMap (·.plain? (atLeastOneBucket n)))).2).1 := by
  intro m s
  have hfresh : m.Represents s := Represents.fresh hint hint' n
  have hend := hfresh.run ops
  refine ⟨CountedOp.buckets_run m ops, wellFilled hend.routed hend.counts hfew, ?_, fun before hbefore op p hp => ?_⟩
  · rw [hend.counts.size_eq hfew, entries_run, entries_withBuckets, Nat.zero_add]
  · have hbuckets : (CountedOp.run m before).2.buckets = atLeastOneBucket n := CountedOp.buckets_run m before
    have hfew' := Nat.lt_of_le_of_lt (entries_run_le hbefore) hfew
    exact ((hfresh.run before).step_plain (hbuckets ▸ hp)).1 hfew'

/-- Three buckets, filled by hand and by two writers, one of which is given a key of the other and one that is there. -/
theorem filled_by_hand_and_by_writers :
    let ops : List CountedOp :=
      [.put 4 1, .writer 1 (.put 7 2), .writer 1 (.put 5 9), .writer 2 (.put 5 3), .put 7 8, .writer 1 (.put 4 0)]
    let m : CountedShards (EntryList UInt64 UInt64) := .withBuckets 4 3
    let s : Counted (EntryList UInt64 UInt64) := .withCapacity 0
    (CountedOp.run m ops).2.entries < UInt64.size ∧ (CountedOp.run m ops).2.WellFilled ∧ (CountedOp.run m ops).2.size = 3 ∧
      ((CountedOp.writer 2 (.put 5 1)).step (CountedOp.run m ops).2).1.plain =
        ((Counted.Op.put 5 1).step (Counted.Op.run s [.put 4 1, .put 7 2, .put 5 3, .put 7 8, .put 4 0]).2).1 := by
  intro ops m s
  have hfew : (CountedOp.run m ops).2.entries < UInt64.size := by decide
  obtain ⟨-, hfilled, hsize, hanswers⟩ := fills_as_one_store (ν := EntryList UInt64 UInt64) 4 0 3 ops hfew
  refine ⟨hfew, hfilled, hsize.trans (by decide), ?_⟩
  exact hanswers ops (List.prefix_refl ops) (.writer 2 (.put 5 1)) (.put 5 1) rfl

end CountedShards
end ShardStore
