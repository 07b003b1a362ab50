import ShardStore.Proofs.Batch
import ShardStore.Proofs.Store.Run

/-!
# Batches taken back

What a batch has added can be taken out again, in any order. The deletes may move the hashes of the batch about, but what was
there before stands in front of them in each table and stays as it was.
-/

namespace ShardStore

/-! ## Runs of deletes -/

section

variable {μ : Type} [TransactionMap μ]

/-- The hashes that a map has come to have, each once. -/
structure Newcomers (m m' : μ) (hs : List Hash) : Prop where
  nodup : hs.Nodup
  mem_iff : ∀ h, h ∈ hs ↔ TransactionMap.get? m h = none ∧ TransactionMap.get? m' h ≠ none

theorem Newcomers.of_value {m m' : μ} {hs : List Hash} {v : UInt64} (hnodup : hs.Nodup)
    (hnew : ∀ h ∈ hs, TransactionMap.get? m h = none)
    (hvalue : ∀ h, TransactionMap.get? m' h = if h ∈ hs then some v else TransactionMap.get? m h) : Newcomers m m' hs where
  nodup := hnodup
  mem_iff h := by
    rw [hvalue]
    constructor
    · intro hh
      exact ⟨hnew h hh, by simp [hh]⟩
    · rintro ⟨hold, hnow⟩
      by_contra hh
      rw [if_neg hh] at hnow
      exact hnow hold

/-- A batch adds a beginning of its hashes. If these are deleted again, in whatever order, every delete is done and leads to a
map that is as before. -/
def Undoable (m : μ) (hs : List Hash) (v : UInt64) (AsBefore : μ → Prop) : Prop :=
  ∃ p, p <+: hs ∧ Newcomers m (TransactionMap.putAll m hs v).2 p ∧ ∀ ds : List Hash, ds.Perm p →
    let (answers, m') := MapOp.run (TransactionMap.putAll m hs v).2 (ds.map .delete)
    answers = (ds.map fun _ => .outcome (.ok ())) ∧ AsBefore m'

theorem Undoable.imp {m : μ} {hs : List Hash} {v : UInt64} {P Q : μ → Prop} (hundo : Undoable m hs v P)
    (himp : ∀ m', P m' → Q m') : Undoable m hs v Q := by
  obtain ⟨p, hbegins, hnew, hback⟩ := hundo
  refine ⟨p, hbegins, hnew, fun ds hds => ?_⟩
  obtain ⟨hanswers, hend⟩ := hback ds hds
  exact ⟨hanswers, himp _ hend⟩

/-- The hashes of a list can be taken out in turn if each delete leaves what is good for the rest. -/
theorem MapOp.run_deletes (Good : μ → List Hash → Prop)
    (hdelete : ∀ m h hs, Good m (h :: hs) →
      (TransactionMap.delete m h).1 = .ok () ∧ Good (TransactionMap.delete m h).2 hs)
    {m : μ} {hs : List Hash} (hm : Good m hs) :
    (run m (hs.map .delete)).1 = (hs.map fun _ => .outcome (.ok ())) ∧ Good (run m (hs.map .delete)).2 [] := by
  induction hs generalizing m with
  | nil => exact ⟨rfl, hm⟩
  | cons h hs ih =>
      obtain ⟨hok, hnext⟩ := hdelete m h hs hm
      obtain ⟨hanswers, hend⟩ := ih hnext
      exact ⟨congrArg₂ List.cons (congrArg MapAnswer.outcome hok) hanswers, hend⟩

end

section

variable {α β : Type} {free : α → Prop} {a : α} {l l' : List α} {R R' : α → β → Prop} {o : Option α} {o' : Option β}

theorem Fits.tail (hfits : Fits free (a :: l)) : Fits free l :=
  ⟨(List.nodup_cons.1 hfits.1).2, fun b hb => hfits.2 b (List.mem_cons_of_mem a hb)⟩

theorem Fits.perm (hfits : Fits free l) (hperm : l.Perm l') : Fits free l' :=
  ⟨hperm.nodup_iff.1 hfits.1, fun b hb => hfits.2 b (hperm.mem_iff.2 hb)⟩

theorem rel_imp (hrel : Option.Rel R o o') (himp : ∀ a b, o = some a → R a b → R' a b) : Option.Rel R' o o' := by
  cases hrel with
  | none => exact .none
  | some h => exact .some (himp _ _ rfl h)

theorem exists_of_rel_some (hrel : Option.Rel R (some a) o') : ∃ b, o' = some b ∧ R a b := by
  cases hrel with
  | some h => exact ⟨_, rfl, h⟩

end

/-! ## Stores -/

namespace Store

variable {τ : Type} [Table τ Hash UInt64] {s t : Store τ} {h : Hash} {hs hs' : List Hash} {v : UInt64}

/-- The store `t` is `s` with some more hashes, all with one value. They stand behind what is in `s`, in any order. -/
structure Under (s t : Store τ) (hs : List Hash) (v : UInt64) : Prop where
  fits : Fits (fun h => s.get? h = none) hs
  value : ∀ h, t.get? h = if h ∈ hs then some v else s.get? h
  behind : FrontKeepingTable τ → ∃ back, t.toList = s.toList ++ back

theorem Gains.under (hgains : s.Gains t hs v) (hfits : Fits (fun h => s.get? h = none) hs) : s.Under t hs v where
  fits := hfits
  value := hgains.value
  behind hkeeps := ⟨_, hgains.inOrder hkeeps.toAppendingTable⟩

theorem Gains.newcomers (hgains : s.Gains t hs v) (hfits : Fits (fun h => s.get? h = none) hs) : Newcomers s t hs :=
  .of_value hfits.1 hfits.2 hgains.value

theorem Under.perm (hu : s.Under t hs v) (hperm : hs.Perm hs') : s.Under t hs' v where
  fits := hu.fits.perm hperm
  value h := by
    rw [hu.value]
    simp only [hperm.mem_iff]
  behind := hu.behind

theorem Under.get?_of_nil (hu : s.Under t [] v) (h : Hash) : t.get? h = s.get? h := by
  rw [hu.value, if_neg List.not_mem_nil]

variable [LawfulTable τ]

theorem Under.delete (hu : s.Under t (h :: hs) v) : (t.delete h).1 = .ok () ∧ s.Under (t.delete h).2 hs v := by
  have hnew : s.get? h = none := hu.fits.2 h List.mem_cons_self
  have hlater : h ∉ hs := (List.nodup_cons.1 hu.fits.1).1
  refine ⟨?_, hu.fits.tail, fun k => ?_, fun hkeeps => ?_⟩
  · rw [delete_fst, hu.value, if_pos List.mem_cons_self]
    rfl
  · rw [get?_delete, hu.value]
    by_cases hk : h = k
    · subst hk
      rw [if_pos rfl, if_neg hlater, hnew]
    · simp [hk, Ne.symm hk]
  · obtain ⟨back, hlist⟩ := hu.behind hkeeps
    rw [delete_snd]
    refine hkeeps.toList_remove t.table h s.toList back hlist fun e he heq => ?_
    -- an entry in front is one of `s`, where `h` is absent
    have hold : s.get? e.1 = some e.2 := (s.mem_toList_iff e.1 e.2).1 he
    rw [heq, hnew] at hold
    cases hold

theorem Under.eq_of_nil (hkeeps : FrontKeepingTable τ) (hu : s.Under t [] v) : t = s := by
  obtain ⟨back, hlist⟩ := hu.behind hkeeps
  have hlength := congrArg List.length hlist
  rw [List.length_append, (toList_perm_of_get? hu.get?_of_nil).length_eq, Nat.left_eq_add, List.length_eq_zero_iff] at hlength
  rw [hlength, List.append_nil] at hlist
  exact congrArg Store.mk (hkeeps.ext t.table s.table hlist)

theorem undoable (s : Store τ) (hs : List Hash) (v : UInt64) : Undoable s hs v (s.Under · [] v) := by
  obtain ⟨p, hlongest, hgains, -⟩ := s.batch_ends hs v
  refine ⟨p, hlongest.begins, hgains.newcomers hlongest.holds, fun ds hds => ?_⟩
  have hstart : s.Under (s.putAll hs v).2 ds v := (hgains.under hlongest.holds).perm hds.symm
  exact MapOp.run_deletes (s.Under · · v) (fun _ _ _ ht => ht.delete) hstart

end Store

/-! ## Sharded maps -/

namespace Sharded

variable {τ : Type} [Table τ Hash UInt64] {m n : Sharded τ} {h : Hash} {hs hs' : List Hash} {v : UInt64}

/-- The map `n` is `m` with some more hashes, each in the slot of its bucket. -/
structure Under (m n : Sharded τ) (hs : List Hash) (v : UInt64) : Prop where
  fits : Fits m.Free hs
  buckets : n.buckets = m.buckets
  slots : ∀ b, Option.Rel (fun s t => s.Under t (hs.filter (m.bucketFor · = b)) v) (m.slot? b) (n.slot? b)

theorem Free.get?_store (hfree : m.Free h) {s : Store τ} (hs : m.slot? (m.bucketFor h) = some s) : s.get? h = none := by
  obtain ⟨s', hs', hget⟩ := hfree
  rw [hs'] at hs
  exact Option.some.inj hs ▸ hget

theorem Free.get?_eq_none (hfree : m.Free h) : m.get? h = none := by
  obtain ⟨s, hs, hget⟩ := hfree
  rw [Sharded.get?_eq, hs, Option.bind_some, hget]

theorem Gains.under (hgains : m.Gains n hs v) (hfits : Fits m.Free hs) : m.Under n hs v where
  fits := hfits
  buckets := hgains.buckets
  slots b := rel_imp (hgains.slots b) fun s t hs ht => ht.under ⟨hfits.1.filter _, fun h hh => by
    obtain ⟨hmem, hb⟩ := List.mem_filter.1 hh
    exact (hfits.2 h hmem).get?_store (of_decide_eq_true hb ▸ hs)⟩

theorem Gains.newcomers (hgains : m.Gains n hs v) (hfits : Fits m.Free hs) : Newcomers m n hs :=
  .of_value hfits.1 (fun h hh => (hfits.2 h hh).get?_eq_none) (hgains.get?_eq hfits.2)

theorem Under.perm (hu : m.Under n hs v) (hperm : hs.Perm hs') : m.Under n hs' v where
  fits := hu.fits.perm hperm
  buckets := hu.buckets
  slots b := rel_imp (hu.slots b) fun _ _ _ ht => ht.perm (hperm.filter _)

theorem Under.bucketFor (hu : m.Under n hs v) (h : Hash) : n.bucketFor h = m.bucketFor h := congrArg h.bucket hu.buckets

variable [LawfulTable τ]

theorem Under.delete (hu : m.Under n (h :: hs) v) : (n.delete h).1 = .ok () ∧ m.Under (n.delete h).2 hs v := by
  obtain ⟨s, hold, hget⟩ := hu.fits.2 h List.mem_cons_self
  have hslot := hu.slots (m.bucketFor h)
  simp only [hold, List.filter_cons_of_pos, decide_true] at hslot
  obtain ⟨t, ht, hst⟩ := exists_of_rel_some hslot
  obtain ⟨hok, hrest⟩ := hst.delete
  have hdelete : n.delete h = (.ok (), n.withSlot (m.bucketFor h) (some (t.delete h).2)) := by
    rw [Sharded.delete, tryOnSlot_eq, hu.bucketFor, ht]
    simp only [Store.contains_of_delete hok, if_true, hok]
  rw [hdelete]
  refine ⟨rfl, hu.fits.tail, hu.buckets, fun b => ?_⟩
  rw [slot?_withSlot_of_le (hu.bucketFor h ▸ n.bucketFor_le h)]
  by_cases hb : m.bucketFor h = b
  · subst hb
    rw [if_pos rfl, hold]
    exact .some hrest
  · have hother := hu.slots b
    rw [List.filter_cons_of_neg (by simpa using hb)] at hother
    rwa [if_neg hb]

theorem undoable (m : Sharded τ) (hs : List Hash) (v : UInt64) : Undoable m hs v (m.Under · [] v) := by
  obtain ⟨p, hlongest, hgains, -⟩ := m.batch_ends hs v
  refine ⟨p, hlongest.begins, hgains.newcomers hlongest.holds, fun ds hds => ?_⟩
  have hstart : m.Under (m.putAll hs v).2 ds v := (hgains.under hlongest.holds).perm hds.symm
  exact MapOp.run_deletes (m.Under · · v) (fun _ _ _ hn => hn.delete) hstart

omit [LawfulTable τ] in
theorem Under.cell?_of_nil (hu : m.Under n [] v) (b : UInt16) (h : Hash) : n.cell? b h = m.cell? b h := by
  have hslot := hu.slots b
  rw [cell?, cell?]
  generalize m.slot? b = o, n.slot? b = o' at hslot
  cases hslot with
  | none => rfl
  | some ht => rw [Option.map_some, Option.map_some, ht.get?_of_nil]

theorem Under.eq_of_nil (hkeeps : FrontKeepingTable τ) (hu : m.Under n [] v) : n = m := by
  refine ext_slots hu.buckets fun b => ?_
  have hslot := hu.slots b
  generalize m.slot? b = o, n.slot? b = o' at hslot
  cases hslot with
  | none => rfl
  | some ht => rw [ht.eq_of_nil hkeeps]

end Sharded

/-! ## Both -/

/-- Whatever a batch has added can be taken back, be it done or refused: in each slot every look-up then finds what it found
before. Where the tables are lists of entries, these also have their old order. -/
theorem batch_undone {τ : Type} [Table τ Hash UInt64] [LawfulTable τ] (hs : List Hash) (v : UInt64) :
    (∀ s : Store τ, Undoable s hs v fun t => ∀ h, t.get? h = s.get? h) ∧
    (∀ m : Sharded τ, Undoable m hs v fun n => n.buckets = m.buckets ∧ ∀ b h, n.cell? b h = m.cell? b h) ∧
    (∀ s : Store (EntryList Hash UInt64), Undoable s hs v (· = s)) ∧
    (∀ m : Sharded (EntryList Hash UInt64), Undoable m hs v (· = m)) := by
  refine ⟨fun s => ?_, fun m => ?_, fun s => ?_, fun m => ?_⟩
  · exact (s.undoable hs v).imp fun t hu => hu.get?_of_nil
  · exact (m.undoable hs v).imp fun n hu => ⟨hu.buckets, hu.cell?_of_nil⟩
  · exact (s.undoable hs v).imp fun t hu => hu.eq_of_nil inferInstance
  · exact (m.undoable hs v).imp fun n hu => hu.eq_of_nil inferInstance

/-- A map that has lost a slot, and has a hash in the wrong one, refuses the last hash of a batch. The batch is taken back from
its middle. -/
theorem refused_batch_undone :
    let a := Hash.ofBytes [0, 2]
    let b := Hash.ofBytes [0, 4]
    let c := Hash.ofBytes [0, 6]
    let odd := Hash.ofBytes [0, 1]
    let fresh : Sharded (EntryList Hash UInt64) := .withBuckets 4 2
    let m := ((fresh.removeBucket 1).2.putAllIn 0 [odd] 3).2
    let batch := m.putAll [a, b, c, odd] 7
    batch.1 = .error (.batch 1 (.noBucket 1 2)) ∧
      (batch.2.delete a).2.toList = [(odd, 3), (c, 7), (b, 7)] ∧
      let (answers, left) := MapOp.run batch.2 ([b, a, c].map .delete)
      answers = ([b, a, c].map fun _ => .outcome (.ok ())) ∧ left = m := by
  intro a b c odd fresh m batch
  refine ⟨by decide, by decide, ?_⟩
  have hc : m.get? c = none ∧ (m.putAll [a, b, c, odd] 7).2.get? c ≠ none := by decide
  have hodd : (m.putAll [a, b, c, odd] 7).2.get? odd = none := by decide
  have hother : c ≠ a ∧ c ≠ b := by decide
  have hundo : Undoable m [a, b, c, odd] 7 (· = m) := (batch_undone (τ := EntryList Hash UInt64) [a, b, c, odd] 7).2.2.2 m
  clear_value m a b c odd
  obtain ⟨p, hbegins, hnew, hback⟩ := hundo
  have hlast : c ∈ p := (hnew.mem_iff c).2 hc
  have hrefused : odd ∉ p := fun hmem => ((hnew.mem_iff odd).1 hmem).2 hodd
  have hp : p = [a, b, c] := by
    simp only [List.prefix_cons_iff, List.prefix_nil] at hbegins
    grind
  subst hp
  exact hback [b, a, c] (.swap a b [c])

end ShardStore
