import Mathlib.Data.List.Dedup
import ShardStore.Hash.Digest
import ShardStore.Proofs.Store.Interchange
import ShardStore.Proofs.Table.EntryList

/-!
# Sets as stores of zeros

A set answers as a store does to which hashes are added where they are absent, each with the value zero. Putting a hash into a set
overwrites where the store refuses, so what is to be shown is that this changes nothing, not even the order.
-/

namespace ShardStore

/-! ## A store in place of a set -/

/-- The operations on a store that stand for one on a set. -/
def SetOp.onStore : SetOp → List MapOp
  | .put h => [.setIfAbsent h 0]
  | .putAll hs => hs.map (.setIfAbsent · 0)
  | .get h => [.get h]
  | .contains h => [.contains h]
  | .delete h => [.delete h]
  | .size => [.size]
  | .keys => [.keys]
  | .walk decide => [.walk fun es => decide (es.map Prod.fst)]

/-- What an answer of a store says of its hashes. -/
def MapAnswer.ofHashes : MapAnswer → SetAnswer
  | .outcome o => .outcome o
  | .value v => .value v
  | .truth b => .truth b
  | .count n => .count n
  | .keys hs => .keys hs
  | .visited es => .visited (es.map Prod.fst)

/-- The answer to an operation on a set by those of the store. Whether hashes were added is dropped. -/
def SetOp.answerBy : SetOp → List MapAnswer → SetAnswer
  | .put _, _ | .putAll _, _ => .done
  | _, answers => answers.head?.elim .done MapAnswer.ofHashes

/-- A visitor that goes by one part of each item sees of these parts what it would see of them alone. -/
theorem map_walk_recording {α β : Type} (f : α → β) (decide : List β → Signal) (seen items : List α) :
    (walk (recording fun seen => decide (seen.map f)) seen items).map f =
      walk (recording decide) (seen.map f) (items.map f) := by
  induction items generalizing seen with
  | nil => rfl
  | cons a items ih =>
      have hseen : (seen ++ [a]).map f = seen.map f ++ [f a] := List.map_append
      simp only [List.map_cons, walk, recording, ← hseen]
      cases decide ((seen ++ [a]).map f) with
      | proceed => exact ih (seen ++ [a])
      | stop => rfl

theorem SetOp.answerBy_walk {τ : Type} [Table τ Hash UInt64] (t : Store τ) (decide : List Hash → Signal) :
    (SetOp.walk decide).answerBy (MapOp.run t (SetOp.walk decide).onStore).1 =
      .visited (ShardStore.walk (recording decide) [] t.keys) :=
  congrArg SetAnswer.visited (map_walk_recording Prod.fst decide [] t.toList)

namespace KeySet

/-! ## What sets have after puts -/

section

variable {σ : Type} [Table σ Hash Unit]

/-- What a set keeps of hashes that are put into it, in any order and however often: that they are there. -/
structure AddsOnce (s : KeySet σ) : Prop where
  distinct : s.keys.Nodup ∧ s.keys.length = s.size ∧ ∀ h, h ∈ s.keys ↔ s.contains h = true
  counts : ∀ hs, (s.putAll hs).size = (s.keys ++ hs).dedup.length
  present : ∀ hs, (∀ h ∈ hs, s.contains h = true) → (s.putAll hs).Alike s
  again : ∀ hs, ((s.putAll hs).putAll hs).Alike (s.putAll hs)
  unordered : ∀ hs hs', (∀ h, h ∈ hs ↔ h ∈ hs') → (s.putAll hs).Alike (s.putAll hs')

variable [LawfulTable σ] {s : KeySet σ}

theorem cell?_putAll (s : KeySet σ) (hs : List Hash) (k : Hash) :
    (s.putAll hs).cell? k = if k ∈ hs then some () else s.cell? k := by
  induction hs generalizing s with
  | nil => rfl
  | cons h hs ih =>
      refine (ih (s.put h)).trans ?_
      rw [cell?_put]
      by_cases hh : h = k <;> simp [hh, eq_comm (a := k)]

theorem cell?_of_contains {h : Hash} (hpresent : s.contains h = true) : s.cell? h = some () :=
  Option.eq_some_of_isSome ((s.contains_eq h).symm.trans hpresent)

theorem mem_keys_iff (s : KeySet σ) (h : Hash) : h ∈ s.keys ↔ s.contains h = true := Table.mem_keys_iff s.table h

theorem contains_putAll (s : KeySet σ) (hs : List Hash) (k : Hash) :
    (s.putAll hs).contains k = true ↔ k ∈ hs ∨ s.contains k = true := by
  rw [contains_eq, contains_eq, cell?_putAll]
  split
  · next hk => exact iff_of_true rfl (.inl hk)
  · next hk => exact (or_iff_right hk).symm

theorem keys_putAll_perm (s : KeySet σ) (hs : List Hash) : (s.putAll hs).keys.Perm (s.keys ++ hs).dedup := by
  refine (List.perm_ext_iff_of_nodup (LawfulTable.nodup_keys (s.putAll hs).table) (List.nodup_dedup _)).2 fun k => ?_
  rw [List.mem_dedup, List.mem_append, mem_keys_iff, or_comm, ← contains_putAll]
  exact mem_keys_iff (s.putAll hs) k

theorem putAll_alike_of_present {hs : List Hash} (hpresent : ∀ h ∈ hs, s.contains h = true) : (s.putAll hs).Alike s := by
  intro k
  rw [cell?_putAll]
  split
  · next hk => exact (cell?_of_contains (hpresent k hk)).symm
  · rfl

theorem addsOnce (s : KeySet σ) : s.AddsOnce where
  distinct := ⟨LawfulTable.nodup_keys s.table, Table.length_keys s.table, s.mem_keys_iff⟩
  counts hs := by rw [← (s.keys_putAll_perm hs).length_eq]; exact (Table.length_keys _).symm
  present hs hpresent := putAll_alike_of_present hpresent
  again hs := putAll_alike_of_present fun h hh => (s.contains_putAll hs h).2 (.inl hh)
  unordered hs hs' hsame k := by
    rw [cell?_putAll, cell?_putAll]
    exact if_congr (hsame k) rfl rfl

end

/-! ## Over any tables -/

section

variable {σ τ : Type} [Table σ Hash Unit] [LawfulTable σ] [Table τ Hash UInt64] [LawfulTable τ]

/-- The store has the hashes of the set, all with the value zero. -/
def Mirrors (s : KeySet σ) (t : Store τ) : Prop := ∀ h, t.get? h = (s.cell? h).map fun _ => 0

variable {s : KeySet σ} {t : Store τ}

theorem mirrors_withCapacity (hint hint' : Nat) : (withCapacity hint : KeySet σ).Mirrors (.withCapacity hint' : Store τ) := by
  intro h
  rw [cell?_withCapacity, Store.get?_withCapacity, Option.map_none]

theorem Mirrors.contains_eq (hm : s.Mirrors t) (h : Hash) : t.contains h = s.contains h := by
  rw [Store.contains_eq, KeySet.contains_eq, hm h, Option.isSome_map]

theorem Mirrors.keys_perm (hm : s.Mirrors t) : s.keys.Perm t.keys :=
  Table.keys_perm_of_contains fun h => (hm.contains_eq h).symm

theorem Mirrors.put (hm : s.Mirrors t) (h : Hash) : (s.put h).Mirrors ((MapOp.setIfAbsent h 0).step t).2 := by
  have hsingle : (MapOp.setIfAbsent h 0).hash? = some h := rfl
  intro k
  rw [t.get?_step hsingle, cell?_put, hm h, hm k]
  split
  · cases s.cell? h <;> rfl
  · rfl

theorem Mirrors.putAll (hm : s.Mirrors t) (hs : List Hash) :
    (s.putAll hs).Mirrors (MapOp.run t (hs.map (.setIfAbsent · 0))).2 := by
  induction hs generalizing s t with
  | nil => exact hm
  | cons h hs ih => exact ih (hm.put h)

theorem Mirrors.delete (hm : s.Mirrors t) (h : Hash) :
    (s.delete h).1 = (t.delete h).1 ∧ (s.delete h).2.Mirrors (t.delete h).2 := by
  refine ⟨?_, fun k => ?_⟩
  · rw [delete_eq, t.delete_fst, hm h, Option.isSome_map]
  · rw [cell?_delete, t.get?_delete, hm k]
    split <;> rfl

theorem Mirrors.step (hm : s.Mirrors t) (op : SetOp) :
    op.AnswersAlike (op.step s).1 (op.answerBy (MapOp.run t op.onStore).1) ∧
      (op.step s).2.Mirrors (MapOp.run t op.onStore).2 := by
  cases op with
  | put h => exact ⟨rfl, hm.put h⟩
  | putAll hs => exact ⟨rfl, hm.putAll hs⟩
  | get h =>
      refine ⟨congrArg SetAnswer.value ?_, hm⟩
      rw [get?, show TransactionMap.get? t h = t.get? h from rfl, hm h, KeySet.contains_eq]
      cases s.cell? h <;> rfl
  | contains h => exact ⟨congrArg SetAnswer.truth (hm.contains_eq h).symm, hm⟩
  | delete h =>
      obtain ⟨houtcome, hnext⟩ := hm.delete h
      exact ⟨congrArg SetAnswer.outcome houtcome, hnext⟩
  | size =>
      refine ⟨congrArg SetAnswer.count ?_, hm⟩
      exact (Table.length_keys s.table).symm.trans (hm.keys_perm.length_eq.trans t.length_keys)
  | keys => exact ⟨hm.keys_perm, hm⟩
  | walk decide =>
      refine ⟨?_, hm⟩
      rw [SetOp.answerBy_walk]
      exact visitsAlike_walk hm.keys_perm decide

theorem Mirrors.run (hm : s.Mirrors t) (ops : List SetOp) :
    (SetOp.run s ops).2.Mirrors (MapOp.run t (ops.flatMap SetOp.onStore)).2 := by
  induction ops generalizing s t with
  | nil => exact hm
  | cons op ops ih =>
      rw [List.flatMap_cons, MapOp.run_append_snd]
      exact ih (hm.step op).2

end

/-! ## Over lists of entries -/

section

variable {s : KeySet (EntryList Hash Unit)} {t : Store (EntryList Hash UInt64)}

/-- The list of the store is that of the set with zeros as its values. -/
def Copies (s : KeySet (EntryList Hash Unit)) (t : Store (EntryList Hash UInt64)) : Prop :=
  t.table.entries = mapValues (fun _ => 0) s.table.entries

/-- Hashes that are there stay where they are, and new ones go to the end. -/
structure KeepsOrder (s : KeySet (EntryList Hash Unit)) : Prop where
  keys_put : ∀ h, (s.put h).keys = if s.contains h then s.keys else s.keys ++ [h]
  present : ∀ hs, (∀ h ∈ hs, s.contains h = true) → s.putAll hs = s
  again : ∀ hs, (s.putAll hs).putAll hs = s.putAll hs

theorem copies_withCapacity (hint hint' : Nat) : (withCapacity hint).Copies (.withCapacity hint') := rfl

theorem Copies.mirrors (hc : s.Copies t) : s.Mirrors t := by
  intro h
  change findEntry h t.table.entries = _
  rw [hc, findEntry_mapValues]
  rfl

theorem Copies.keys_eq (hc : s.Copies t) : t.keys = s.keys := by
  change entryKeys t.table.entries = entryKeys s.table.entries
  rw [hc, entryKeys_mapValues]

theorem put_of_contains {h : Hash} (hpresent : s.contains h = true) : s.put h = s := by
  obtain ⟨⟨es, hdistinct⟩⟩ := s
  have hsame : insertEntry h () es = es := insertEntry_of_present (cell?_of_contains hpresent)
  simp only [put, Table.insert, hsame]

theorem putAll_of_contains {hs : List Hash} (hpresent : ∀ h ∈ hs, s.contains h = true) : s.putAll hs = s := by
  induction hs with
  | nil => rfl
  | cons h hs ih =>
      change (s.put h).putAll hs = s
      rw [put_of_contains (hpresent h (List.mem_cons_self ..))]
      exact ih fun k hk => hpresent k (List.mem_cons_of_mem _ hk)

theorem keepsOrder (s : KeySet (EntryList Hash Unit)) : s.KeepsOrder where
  keys_put h := by
    refine (entryKeys_insertEntry h () s.table.entries).trans ?_
    exact if_congr (s.mem_keys_iff h) rfl rfl
  present hs := putAll_of_contains
  again hs := putAll_of_contains fun h hh => (s.contains_putAll hs h).2 (.inl hh)

theorem Copies.put (hc : s.Copies t) (h : Hash) : (s.put h).Copies ((MapOp.setIfAbsent h 0).step t).2 := by
  have hget := hc.mirrors h
  change (s.put h).Copies (t.setIfAbsent h 0).2
  rw [t.setIfAbsent_snd]
  cases hcell : s.cell? h with
  | some _ =>
      rw [hcell] at hget
      rw [put_of_contains (congrArg Option.isSome hcell), Store.put_of_present hget]
      exact hc
  | none =>
      rw [hcell] at hget
      rw [Store.put_of_absent hget]
      change insertEntry h 0 t.table.entries = mapValues _ (insertEntry h () s.table.entries)
      rw [hc]
      exact insertEntry_mapValues (fun _ => 0) h () s.table.entries

theorem Copies.putAll (hc : s.Copies t) (hs : List Hash) :
    (s.putAll hs).Copies (MapOp.run t (hs.map (.setIfAbsent · 0))).2 := by
  induction hs generalizing s t with
  | nil => exact hc
  | cons h hs ih => exact ih (hc.put h)

theorem Copies.delete (hc : s.Copies t) (h : Hash) : (s.delete h).2.Copies (t.delete h).2 := by
  rw [delete_eq, t.delete_snd]
  change removeEntry h t.table.entries = mapValues _ (removeEntry h s.table.entries)
  rw [hc, removeEntry_mapValues]

theorem Copies.step (hc : s.Copies t) (op : SetOp) :
    (op.step s).1 = op.answerBy (MapOp.run t op.onStore).1 ∧ (op.step s).2.Copies (MapOp.run t op.onStore).2 := by
  have hanswer := (hc.mirrors.step op).1
  cases op with
  | put h => exact ⟨hanswer, hc.put h⟩
  | putAll hs => exact ⟨hanswer, hc.putAll hs⟩
  | get | contains | size => exact ⟨hanswer, hc⟩
  | delete h => exact ⟨hanswer, hc.delete h⟩
  | keys => exact ⟨congrArg SetAnswer.keys hc.keys_eq.symm, hc⟩
  | walk decide =>
      refine ⟨?_, hc⟩
      rw [SetOp.answerBy_walk, hc.keys_eq]
      rfl

theorem Copies.run (hc : s.Copies t) (ops : List SetOp) :
    (SetOp.run s ops).2.Copies (MapOp.run t (ops.flatMap SetOp.onStore)).2 := by
  induction ops generalizing s t with
  | nil => exact hc
  | cons op ops ih =>
      rw [List.flatMap_cons, MapOp.run_append_snd]
      exact ih (hc.step op).2

end

/-- The same run on a set and, with zeros as values, on a store: whatever their tables, the next operation gives answers that say
the same, and over lists of entries the very same answers. Hashes count once, however often they are put. -/
theorem runs_as_store_of_zeros (σ τ : Type) [Table σ Hash Unit] [LawfulTable σ] [Table τ Hash UInt64] [LawfulTable τ]
    (hint hint' : Nat) (ops : List SetOp) :
    let s : KeySet σ := (SetOp.run (.withCapacity hint) ops).2
    let t : Store τ := (MapOp.run (.withCapacity hint') (ops.flatMap SetOp.onStore)).2
    let listed : KeySet (EntryList Hash Unit) := (SetOp.run (.withCapacity hint) ops).2
    let listed' : Store (EntryList Hash UInt64) := (MapOp.run (.withCapacity hint') (ops.flatMap SetOp.onStore)).2
    (∀ op : SetOp, op.AnswersAlike (op.step s).1 (op.answerBy (MapOp.run t op.onStore).1)) ∧ s.AddsOnce ∧
      (∀ op : SetOp, (op.step listed).1 = op.answerBy (MapOp.run listed' op.onStore).1) ∧ listed.KeepsOrder := by
  intro s t listed listed'
  have hmirrors : s.Mirrors t := (mirrors_withCapacity hint hint').run ops
  have hcopies : listed.Copies listed' := (copies_withCapacity hint hint').run ops
  exact ⟨fun op => (hmirrors.step op).1, s.addsOnce, fun op => (hcopies.step op).1, listed.keepsOrder⟩

/-- A set of two hashes of which the first was taken out and put again, behind the second. -/
theorem put_again_behind :
    let a := Hash.ofBytes [1]
    let b := Hash.ofBytes [2]
    let ops : List SetOp := [.putAll [a, b, a], .delete a, .put a, .put b]
    let listed : KeySet (EntryList Hash Unit) := (SetOp.run (.withCapacity 4) ops).2
    let listed' : Store (EntryList Hash UInt64) := (MapOp.run (.withCapacity 0) (ops.flatMap SetOp.onStore)).2
    listed.keys = [b, a] ∧ (SetOp.keys.step listed).1 = SetOp.keys.answerBy (MapOp.run listed' SetOp.keys.onStore).1 ∧
      listed.putAll [a, b] = listed ∧ (listed.putAll [a, Hash.zero, a]).size = 3 := by
  intro a b ops listed listed'
  obtain ⟨-, hadds, hanswers, horder⟩ :=
    runs_as_store_of_zeros (EntryList Hash Unit) (Std.HashMap Hash UInt64) 4 0 ops
  have hkeys : listed.keys = [b, a] := by decide +kernel
  refine ⟨hkeys, hanswers .keys, horder.present [a, b] ?_, ?_⟩
  · decide +kernel
  · have hsize : (listed.putAll [a, Hash.zero, a]).size = (listed.keys ++ [a, Hash.zero, a]).dedup.length :=
      hadds.counts [a, Hash.zero, a]
    rw [hsize, hkeys]
    decide +kernel

end KeySet
end ShardStore
