import ShardStore.Hash.Digest
import ShardStore.Proofs.Counted.Interchange
import ShardStore.Proofs.Sharded.Interchange

/-!
# Any table will do

A container needs nothing of its table but the laws of a finite map. Over any two tables that obey them, runs of the same
operations give the same answers, but for the order in which a table lists its entries.
-/

namespace ShardStore

/-- The same operations on fresh containers over different tables, whatever sizes are expected: after any of them, the next
operation gives answers that say the same. Stores that are taken out of sharded maps, or made from them, go on alike. -/
theorem tables_interchangeable (τ τ' σ σ' ν ν' : Type) [Table τ Hash UInt64] [LawfulTable τ] [Table τ' Hash UInt64]
    [LawfulTable τ'] [Table σ Hash Unit] [LawfulTable σ] [Table σ' Hash Unit] [LawfulTable σ'] [Table ν UInt64 UInt64]
    [LawfulTable ν] [Table ν' UInt64 UInt64] [LawfulTable ν'] (hint hint' : Nat) :
    (Store.withCapacity hint : Store τ).Alike (Store.withCapacity hint' : Store τ') ∧
    (∀ (s : Store τ) (s' : Store τ'), s.Alike s' → ∀ (ops : List MapOp) (op : MapOp),
      op.AnswersAlike List.Perm (op.step (MapOp.run s ops).2).1 (op.step (MapOp.run s' ops).2).1) ∧
    (∀ (ops : List SetOp) (op : SetOp),
      op.AnswersAlike (op.step (SetOp.run (.withCapacity hint : KeySet σ) ops).2).1
        (op.step (SetOp.run (.withCapacity hint' : KeySet σ') ops).2).1) ∧
    (∀ (n : UInt16) (ops : List ShardedOp) (op : ShardedOp),
      let m : Sharded τ := (ShardedOp.run (.withBuckets hint n) ops).2
      let m' : Sharded τ' := (ShardedOp.run (.withBuckets hint' n) ops).2
      op.AnswersAlike (m.live.map Store.size) (op.step m).1 (op.step m').1) ∧
    (∀ (ops : List Counted.Op),
      (Counted.Op.run (.withCapacity hint : Counted ν) ops).1 = (Counted.Op.run (.withCapacity hint' : Counted ν') ops).1) ∧
    ∀ (n : UInt64) (ops : List CountedOp),
      (CountedOp.run (.withBuckets hint n : CountedShards ν) ops).1 =
        (CountedOp.run (.withBuckets hint' n : CountedShards ν') ops).1 := by
  refine ⟨Store.alike_withCapacity hint hint', fun s s' ha ops op => ((ha.run ops).step op).1, fun ops op => ?_,
    fun n ops op => ?_, fun ops => ?_, fun n ops => ?_⟩
  · exact (((KeySet.alike_withCapacity hint hint').run ops).step op).1
  · exact (ShardedOp.alike_step (ShardedOp.alike_run (Sharded.alike_withBuckets hint hint' n) ops) op).1
  · exact ((Counted.alike_withCapacity hint hint').run ops).1
  · exact ((CountedShards.alike_withBuckets hint hint' n).run ops).1

/-- A list of entries and a hash table under the same puts, where a hash that is taken out moves another one in the list. -/
theorem entry_list_or_hash_table :
    let a := Hash.ofBytes [0, 2]
    let b := Hash.ofBytes [0, 4]
    let c := Hash.ofBytes [0, 1]
    let ops : List MapOp := [.put a 1, .put b 2, .put c 3, .delete a]
    let s : Store (EntryList Hash UInt64) := (MapOp.run (.withCapacity 4) ops).2
    let s' : Store (Std.HashMap Hash UInt64) := (MapOp.run (.withCapacity 0) ops).2
    let m : Sharded (EntryList Hash UInt64) := (ShardedOp.run (.withBuckets 4 2) (ops.map .map)).2
    let m' : Sharded (Std.HashMap Hash UInt64) := (ShardedOp.run (.withBuckets 0 2) (ops.map .map)).2
    s.keys.Perm s'.keys ∧ ((MapOp.put b 5).step s).1 = ((MapOp.put b 5).step s').1 ∧
      PermInBlocks (m.live.map Store.size) m.keys m'.keys := by
  intro a b c ops s s' m m'
  obtain ⟨hfresh, hstores, -, hsharded, -⟩ :=
    tables_interchangeable (EntryList Hash UInt64) (Std.HashMap Hash UInt64) (EntryList Hash Unit)
      (Std.HashMap Hash Unit) (EntryList UInt64 UInt64) (Std.HashMap UInt64 UInt64) 4 0
  exact ⟨hstores _ _ hfresh ops .keys, hstores _ _ hfresh ops (.put b 5), hsharded 2 (ops.map .map) (.map .keys)⟩

end ShardStore
