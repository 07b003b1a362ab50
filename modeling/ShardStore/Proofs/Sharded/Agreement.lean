import ShardStore.Proofs.Sharded.Placement
import ShardStore.Proofs.Store.Run

/-!
# A sharded map and a store

A sharded map answers as one store does. Only two things show that it is split: it lists its entries in another order, and
an error that ends a batch names the bucket of the hash at which the batch stopped.
-/

namespace ShardStore

variable {τ τ' : Type} [Table τ Hash UInt64] [LawfulTable τ] [Table τ' Hash UInt64] [LawfulTable τ']

/-- An operation is no walk that stops early. -/
def MapOp.WalksToEnd : MapOp → Prop
  | .walk decide => ∀ seen, decide seen = .proceed
  | _ => True

omit [LawfulTable τ'] in
/-- Of a map with `n` buckets, `answer` says the same as `plain`, the answer of the store `s` to the same operation. -/
def Store.AnswersLike (s : Store τ') (n : UInt16) (op : MapOp) (answer plain : MapAnswer) : Prop :=
  match op, plain with
  | .putAll hs v, .outcome (.error e) =>
      ∃ x rest, hs = s.added hs v ++ x :: rest ∧ answer = .outcome (.error (.batch (x.bucket n).toUInt64 e))
  | .keys, .keys hs => ∃ hs', answer = .keys hs' ∧ hs'.Perm hs
  | .walk _, .visited es => ∃ es', answer = .visited es' ∧ es'.Perm es
  | _, plain => answer = plain

omit [LawfulTable τ'] in
theorem Store.answersLike_self (s : Store τ') {n : UInt16} {op : MapOp} {h : Hash} (hsingle : op.hash? = some h)
    (answer : MapAnswer) : s.AnswersLike n op answer answer := by
  cases op <;> simp only [MapOp.hash?, reduceCtorEq] at hsingle <;> rfl

namespace Sharded

variable {m : Sharded τ} {s : Store τ'} {op : MapOp} {h : Hash}

/-- All slots are there, every hash is where it belongs, and look-ups find what they find in the store. -/
structure Represents (m : Sharded τ) (s : Store τ') : Prop where
  live : ∀ b ≤ m.buckets, (m.slot? b).isSome = true
  routed : m.Routed
  same : ∀ h, m.get? h = s.get? h

theorem Represents.fresh (hint hint' : Nat) (n : UInt16) :
    (withBuckets hint n : Sharded τ).Represents (Store.withCapacity hint' : Store τ') where
  live b hb := by
    have hle : b ≤ atLeastOne n := hb
    rw [slot?_withBuckets, if_pos hle, Option.isSome_some]
  routed := routed_withBuckets hint n
  same h := by
    have hle : (withBuckets hint n : Sharded τ).bucketFor h ≤ atLeastOne n := bucketFor_le _ h
    rw [get?_eq, slot?_withBuckets, if_pos hle, Option.bind_some, Store.get?_withCapacity, Store.get?_withCapacity]

omit [LawfulTable τ] [LawfulTable τ'] in
theorem Represents.cell?_eq (hr : m.Represents s) (h : Hash) : m.cell? (m.bucketFor h) h = some (s.get? h) := by
  have hsome := hr.live _ (m.bucketFor_le h)
  rw [← isSome_cell? m _ h] at hsome
  obtain ⟨cell, hcell⟩ := Option.isSome_iff_exists.1 hsome
  rw [hcell, ← hr.same, get?_eq_cell?, hcell, Option.join_some]

theorem Represents.toList_perm (hr : m.Represents s) : m.toList.Perm s.toList := by
  have hnodup : m.toList.Nodup := .of_map Prod.fst (m.keys_eq ▸ hr.routed.keys_nodup)
  refine (List.perm_ext_iff_of_nodup hnodup s.nodup_toList).2 fun e => ?_
  rw [← hr.routed.get?_iff e.1 e.2, hr.same, s.mem_toList_iff e.1 e.2]

theorem Represents.step_single (hr : m.Represents s) (hsingle : op.hash? = some h) :
    (op.step m).1 = (op.step s).1 ∧ (op.step m).2.Represents (op.step s).2 := by
  refine ⟨?_, ⟨fun b hb => ?_, hr.routed.step op, fun k => ?_⟩⟩
  · rw [step_fst m hsingle, hr.cell?_eq, s.step_fst hsingle]
  · rw [isSome_slot?_step]
    exact hr.live b (m.buckets_step op ▸ hb)
  · rw [get?_eq_cell?, bucketFor, buckets_step, ← bucketFor, cell?_step m hsingle, s.get?_step hsingle]
    by_cases hk : h = k
    · subst hk
      simp only [and_self, if_true, hr.cell?_eq, Option.map_some, Option.join_some]
    · simp only [hk, and_false, if_false, hr.cell?_eq, Option.join_some]

/-- A batch ends in both alike; where it stops, the sharded map adds the bucket. -/
theorem Represents.putAll (hr : m.Represents s) (hs : List Hash) (v : UInt64) :
    (m.putAll hs v).2.Represents (s.putAll hs v).2 ∧
      ((s.putAll hs v).1 = .ok () ∧ (m.putAll hs v).1 = .ok () ∨
        ∃ x rest e, hs = s.added hs v ++ x :: rest ∧ (s.putAll hs v).1 = .error e ∧
          (m.putAll hs v).1 = .error (.batch (m.bucketFor x).toUInt64 e)) := by
  induction hs generalizing m s with
  | nil => exact ⟨hr, Or.inl ⟨rfl, rfl⟩⟩
  | cons h hs ih =>
      obtain ⟨hanswer, hnext⟩ := hr.step_single (show (MapOp.put h v).hash? = some h from rfl)
      have hput : (m.put h v).1 = (s.put h v).1 := MapAnswer.outcome.inj hanswer
      have hnext : (m.put h v).2.Represents (s.put h v).2 := hnext
      cases hget : s.get? h with
      | some old =>
          rw [Store.put_of_present hget] at hput hnext
          rw [putAll_of_put_error hput, Store.putAll_of_present hget, Store.added_of_present hget]
          exact ⟨hnext, Or.inr ⟨h, hs, _, rfl, rfl, rfl⟩⟩
      | none =>
          have hroute : ∀ x, (m.put h v).2.bucketFor x = m.bucketFor x := fun x => by
            rw [bucketFor, show (m.put h v).2.buckets = m.buckets from m.buckets_step (.put h v), bucketFor]
          rw [Store.put_of_absent hget] at hput
          rw [putAll_of_put_ok hput, Store.putAll_of_absent hget, Store.added_of_absent hget]
          obtain ⟨hends, hdone | ⟨x, rest, e, hsplit, hstop, hstop'⟩⟩ := ih hnext
          · exact ⟨hends, Or.inl hdone⟩
          · exact ⟨hends, Or.inr ⟨x, rest, e, by rw [List.cons_append, ← hsplit], hstop, hroute x ▸ hstop'⟩⟩

theorem Represents.size_eq (hr : m.Represents s) : m.size = s.size := by
  rw [size_eq_length, hr.toList_perm.length_eq, s.length_toList]

/-- One operation on both leaves both with the same entries, and gives answers that say the same. -/
theorem Represents.step (hr : m.Represents s) (hop : op.WalksToEnd) :
    (op.step m).2.Represents (op.step s).2 ∧ s.AnswersLike m.buckets op (op.step m).1 (op.step s).1 := by
  cases hhash : op.hash? with
  | some h =>
      obtain ⟨hanswer, hnext⟩ := hr.step_single hhash
      exact ⟨hnext, hanswer ▸ s.answersLike_self hhash _⟩
  | none =>
      cases op <;> simp only [MapOp.hash?, reduceCtorEq] at hhash
      case putAll hs v =>
          obtain ⟨hends, hdone | ⟨x, rest, e, hsplit, hstop, hstop'⟩⟩ := hr.putAll hs v
          · refine ⟨hends, ?_⟩
            simp only [MapOp.step, TransactionMap.putAll, hdone, Store.AnswersLike]
          · refine ⟨hends, ?_⟩
            simp only [MapOp.step, TransactionMap.putAll, hstop, hstop', Store.AnswersLike]
            exact ⟨x, rest, hsplit, rfl⟩
      case keys =>
          refine ⟨hr, m.keys, rfl, ?_⟩
          rw [keys_eq]
          exact hr.toList_perm.map Prod.fst
      case walk decide =>
          refine ⟨hr, m.toList, ?_, ?_⟩
          · exact congrArg MapAnswer.visited (m.walk_recording hop)
          · exact hr.toList_perm.trans (.of_eq (ShardStore.walk_recording hop [] s.toList).symm)
      case size => exact ⟨hr, congrArg MapAnswer.count hr.size_eq⟩

theorem Represents.run (hr : m.Represents s) {ops : List MapOp} (hops : ∀ op ∈ ops, op.WalksToEnd) :
    (MapOp.run m ops).2.Represents (MapOp.run s ops).2 := by
  induction ops generalizing m s with
  | nil => exact hr
  | cons op ops ih =>
      have hnext := (hr.step (hops op (List.mem_cons_self ..))).1
      exact ih hnext fun op hop => hops op (List.mem_cons_of_mem _ hop)

/-- After every part of a run a sharded map and a store that both began empty have the same entries, and the next operation
gives answers that say the same. -/
theorem run_agrees_with_store (hint hint' : Nat) (n : UInt16) (ops : List MapOp) (hops : ∀ op ∈ ops, op.WalksToEnd) :
    let m : Sharded τ := withBuckets hint n
    let s : Store τ' := Store.withCapacity hint'
    (∀ before, before <+: ops →
      (∀ h, (MapOp.run m before).2.get? h = (MapOp.run s before).2.get? h) ∧
        (MapOp.run m before).2.toList.Perm (MapOp.run s before).2.toList) ∧
      ∀ before op after, ops = before ++ op :: after →
        (MapOp.run s before).2.AnswersLike (atLeastOne n) op
          (op.step (MapOp.run m before).2).1 (op.step (MapOp.run s before).2).1 := by
  intro m s
  have hpart : ∀ before, before <+: ops → (MapOp.run m before).2.Represents (MapOp.run s before).2 :=
    fun before hbefore => (Represents.fresh hint hint' n).run fun op hop => hops op (hbefore.mem hop)
  refine ⟨fun before hbefore => ?_, fun before op after hsplit => ?_⟩
  · exact ⟨(hpart before hbefore).same, (hpart before hbefore).toList_perm⟩
  · have hop : op.WalksToEnd := hops op (by simp [hsplit])
    have hbuckets : (MapOp.run m before).2.buckets = atLeastOne n :=
      MapOp.run_keeps (P := fun m : Sharded τ => m.buckets = atLeastOne n)
        (fun op _ m hm => (m.buckets_step op).trans hm) rfl
    exact hbuckets ▸ ((hpart before ⟨op :: after, hsplit.symm⟩).step hop).2

/-- A batch that stops at a hash of bucket 1 in a map with two buckets, and a walk over what it left. -/
theorem stopped_batch_agrees_with_store :
    let a := Hash.ofBytes [0, 1]
    let ops : List MapOp := [.put a 1, .putAll [Hash.ofBytes [0, 2], a, Hash.ofBytes [0, 3]] 2, .walk fun _ => .proceed]
    (∀ op ∈ ops, op.WalksToEnd) ∧
      (MapOp.run (withBuckets 4 2 : Sharded (EntryList Hash UInt64)) ops).2.toList.Perm
        (MapOp.run (Store.withCapacity 0 : Store (EntryList Hash UInt64)) ops).2.toList := by
  intro a ops
  have hops : ∀ op ∈ ops, op.WalksToEnd := by simp [ops, MapOp.WalksToEnd]
  exact ⟨hops, ((run_agrees_with_store 4 0 2 ops hops).1 ops (List.prefix_refl ops)).2⟩

end Sharded
end ShardStore
