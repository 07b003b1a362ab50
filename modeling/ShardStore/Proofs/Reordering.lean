import Mathlib.Data.Fin.VecNotation
import Mathlib.Data.List.FinRange
import Mathlib.Logic.Equiv.Defs
import Mathlib.Tactic.FinCases
import ShardStore.Proofs.Sharded.Placement
import ShardStore.Proofs.Store.Run

/-!
# Operations in another order

Operations on single hashes may be carried out in any order that keeps the order of the operations on each hash. What an
operation answers, and what is there of a hash at the end, depends on the operations on that hash alone, so all of them
answer the same and leave the same.
-/

namespace ShardStore

/-- The same operations in another order, in which those on one hash follow one another as before. -/
structure Reordering (ops ops' : List MapOp) where
  /-- Where an operation has gone. -/
  place : Fin ops.length ≃ Fin ops'.length
  same : ∀ i, ops'[place i] = ops[i]
  inOrder : ∀ i j, i < j → ops[i].hash? = ops[j].hash? → place i < place j

/-! ## The operations on one hash -/

/-- The places of the operations on a hash. -/
def placesOf (h : Hash) (ops : List MapOp) : List (Fin ops.length) :=
  (List.finRange ops.length).filter fun i => ops[i].hash? = some h

/-- The operations on a hash, in order. -/
def onHash (h : Hash) (ops : List MapOp) : List MapOp := ops.filter (·.hash? = some h)

variable {ops ops' : List MapOp} {h : Hash}

theorem mem_placesOf {i : Fin ops.length} : i ∈ placesOf h ops ↔ ops[i].hash? = some h := by
  simp [placesOf]

theorem placesOf_cons (h : Hash) (op : MapOp) (ops : List MapOp) :
    placesOf h (op :: ops) =
      (if op.hash? = some h then [⟨0, Nat.succ_pos _⟩] else []) ++ (placesOf h ops).map Fin.succ := by
  by_cases hop : op.hash? = some h <;>
    simp [placesOf, List.finRange_succ, List.filter_map, Function.comp_def, hop]

theorem onHash_eq_map (h : Hash) (ops : List MapOp) : onHash h ops = (placesOf h ops).map fun i => ops[i] := by
  conv => lhs; rw [onHash, ← List.map_getElem_finRange ops, List.filter_map]
  rfl

theorem Reordering.mem_of_mem (r : Reordering ops ops') {op : MapOp} (hop : op ∈ ops') : op ∈ ops := by
  obtain ⟨j, rfl⟩ := List.mem_iff_get.1 hop
  obtain ⟨i, rfl⟩ := r.place.surjective j
  rw [show ops'.get (r.place i) = ops[i] from r.same i]
  exact List.getElem_mem i.isLt

theorem Reordering.map_placesOf (r : Reordering ops ops') (h : Hash) :
    (placesOf h ops).map r.place = placesOf h ops' := by
  have hmem : ∀ i, r.place i ∈ placesOf h ops' ↔ i ∈ placesOf h ops := fun i => by
    rw [mem_placesOf, mem_placesOf, r.same]
  have hnodup : ∀ ops, (placesOf h ops).Nodup := fun ops => (List.nodup_finRange _).filter _
  have hsorted : ∀ ops, (placesOf h ops).Pairwise (· < ·) := fun ops => (List.pairwise_lt_finRange _).filter _
  have hantisymm : ∀ i j : Fin ops'.length, i < j → j < i → i = j := fun i j hij hji => absurd hji (lt_asymm hij)
  -- both sides are sorted and hold the same places, so they are the same list
  refine List.Perm.eq_of_pairwise (fun i j _ _ => hantisymm i j) ?_ (hsorted ops') ?_
  · refine List.pairwise_map.2 ((hsorted ops).imp_of_mem fun hi hj hij => r.inOrder _ _ hij ?_)
    rw [mem_placesOf.1 hi, mem_placesOf.1 hj]
  · refine (List.perm_ext_iff_of_nodup ((hnodup ops).map r.place.injective) (hnodup ops')).2 fun j => ?_
    obtain ⟨i, rfl⟩ := r.place.surjective j
    rw [List.mem_map_of_injective r.place.injective, hmem]

theorem Reordering.onHash_eq (r : Reordering ops ops') (h : Hash) : onHash h ops' = onHash h ops := by
  rw [onHash_eq_map, onHash_eq_map, ← r.map_placesOf, List.map_map]
  exact List.map_congr_left fun i _ => r.same i

/-! ## What they depend on -/

section

variable {μ α : Type} [TransactionMap μ] {look : μ → Hash → α}

/-- A way to look at one hash of a map which shows all that operations on the hash depend on, and which operations on other
hashes leave alone. -/
structure ShowsHashes (look : μ → Hash → α) : Prop where
  answer : ∀ {op : MapOp} {h m m'}, op.hash? = some h → look m h = look m' h → (op.step m).1 = (op.step m').1
  next : ∀ {op : MapOp} {h m m'},
    op.hash? = some h → look m h = look m' h → look (op.step m).2 h = look (op.step m').2 h
  other : ∀ {op : MapOp} {h k} (m), op.hash? = some h → h ≠ k → look (op.step m).2 k = look m k

/-- The answers about a hash and what is there of it at the end are those of the run without the other operations. -/
theorem ShowsHashes.run_onHash (hl : ShowsHashes look) {ops : List MapOp} (hsingle : ∀ op ∈ ops, op.hash?.isSome = true)
    {m m' : μ} (hsame : look m h = look m' h) :
    (placesOf h ops).map (fun i => (MapOp.run m ops).1[i]?) = (MapOp.run m' (onHash h ops)).1.map some ∧
      look (MapOp.run m ops).2 h = look (MapOp.run m' (onHash h ops)).2 h := by
  -- `m'` goes through the operations on `h` alone; at the others it waits, and `h` looks the same in both throughout
  induction ops generalizing m m' with
  | nil => exact ⟨rfl, hsame⟩
  | cons op ops ih =>
      obtain ⟨k, hk⟩ := Option.isSome_iff_exists.1 (hsingle op (List.mem_cons_self ..))
      have hrest : ∀ op ∈ ops, op.hash?.isSome = true := fun op hop => hsingle op (List.mem_cons_of_mem _ hop)
      rw [placesOf_cons, List.map_append, List.map_map, onHash, List.filter_cons]
      by_cases hh : k = h
      · subst hh
        obtain ⟨hanswers, hend⟩ := ih hrest (hl.next hk hsame)
        have hanswer : (op.step m).1 = (op.step m').1 := hl.answer hk hsame
        simp only [hk, decide_true, if_true]
        refine ⟨?_, hend⟩
        exact congrArg₂ List.cons (congrArg some hanswer) hanswers
      · obtain ⟨hanswers, hend⟩ := ih hrest ((hl.other m hk hh).trans hsame)
        simp only [hk, Option.some.injEq, hh, decide_false, if_false]
        exact ⟨hanswers, hend⟩

/-- Each operation answers the same wherever it has gone, and the same is there of every hash at the end. -/
theorem ShowsHashes.run_eq (hl : ShowsHashes look) (r : Reordering ops ops')
    (hsingle : ∀ op ∈ ops, op.hash?.isSome = true) (m : μ) :
    (∀ i, (MapOp.run m ops').1[r.place i]? = (MapOp.run m ops).1[i]?) ∧
      ∀ h, look (MapOp.run m ops').2 h = look (MapOp.run m ops).2 h := by
  have hsingle' : ∀ op ∈ ops', op.hash?.isSome = true := fun op hop => hsingle op (r.mem_of_mem hop)
  refine ⟨fun i => ?_, fun h => ?_⟩
  · obtain ⟨h, hh⟩ := Option.isSome_iff_exists.1 (hsingle _ (List.getElem_mem i.isLt))
    have hanswers := (hl.run_onHash hsingle (rfl : look m h = look m h)).1
    have hanswers' := (hl.run_onHash hsingle' (rfl : look m h = look m h)).1
    rw [r.onHash_eq, ← r.map_placesOf, List.map_map] at hanswers'
    exact List.map_inj_left.1 (hanswers'.trans hanswers.symm) i (mem_placesOf.2 hh)
  · rw [(hl.run_onHash hsingle' rfl).2, (hl.run_onHash hsingle rfl).2, r.onHash_eq]

end

/-! ## Stores and sharded maps -/

variable {τ : Type} [Table τ Hash UInt64] [LawfulTable τ]

theorem Store.showsHashes : ShowsHashes fun (s : Store τ) h => s.get? h where
  answer {op h s s'} hop hsame := by
    have hsame : s.get? h = s'.get? h := hsame
    rw [s.step_fst hop, s'.step_fst hop, hsame]
  next {op h s s'} hop hsame := by
    have hsame : s.get? h = s'.get? h := hsame
    rw [s.get?_step hop, s'.get?_step hop, hsame]
  other s hop hk := by rw [s.get?_step hop, if_neg hk]

/-- Of a sharded map, a hash shows its value in every slot, and the number of buckets with it. -/
theorem Sharded.showsHashes : ShowsHashes fun (m : Sharded τ) h => (m.buckets, fun b => m.cell? b h) where
  answer {op h m m'} hop hsame := by
    obtain ⟨hbuckets, hcells⟩ := Prod.mk.inj hsame
    rw [m.step_fst hop, m'.step_fst hop, bucketFor, bucketFor, missing, missing, hbuckets, congrFun hcells]
  next {op h m m'} hop hsame := by
    obtain ⟨hbuckets, hcells⟩ := Prod.mk.inj hsame
    refine congrArg₂ Prod.mk ?_ (funext fun b => ?_)
    · rw [m.buckets_step, m'.buckets_step, hbuckets]
    · rw [m.cell?_step hop, m'.cell?_step hop, bucketFor, bucketFor, hbuckets, congrFun hcells]
  other m hop hk := by
    refine congrArg₂ Prod.mk (m.buckets_step _) (funext fun b => ?_)
    rw [m.cell?_step hop, if_neg fun h => hk h.2]

/-- From any store and any sharded map, operations on single hashes answer the same in every order that keeps the order on
each hash, and leave the same entries, in every slot. -/
theorem run_reordered (r : Reordering ops ops') (hsingle : ∀ op ∈ ops, op.hash?.isSome = true) :
    (∀ s : Store τ,
      let t := (MapOp.run s ops).2
      let t' := (MapOp.run s ops').2
      (∀ i, (MapOp.run s ops').1[r.place i]? = (MapOp.run s ops).1[i]?) ∧
        (∀ h, t'.get? h = t.get? h) ∧ t'.size = t.size ∧ t'.keys.Perm t.keys) ∧
      ∀ m : Sharded τ,
        let n := (MapOp.run m ops).2
        let n' := (MapOp.run m ops').2
        (∀ i, (MapOp.run m ops').1[r.place i]? = (MapOp.run m ops).1[i]?) ∧
          (∀ b, Option.Rel (fun t' t => ∀ h, t'.get? h = t.get? h) (n'.slot? b) (n.slot? b)) ∧
          n'.size = n.size ∧ n'.keys.Perm n.keys := by
  refine ⟨fun s => ?_, fun m => ?_⟩
  · obtain ⟨hanswers, hend⟩ := Store.showsHashes.run_eq r hsingle s
    exact ⟨hanswers, hend, Store.size_eq_of_get? hend, Store.keys_perm_of_get? hend⟩
  · obtain ⟨hanswers, hend⟩ := Sharded.showsHashes.run_eq r hsingle m
    have hbuckets : (MapOp.run m ops').2.buckets = (MapOp.run m ops).2.buckets :=
      congrArg Prod.fst (hend (Hash.ofBytes []))
    have hslots := Sharded.slots_rel_of_cell? fun b h => congrFun (congrArg Prod.snd (hend h)) b
    have hentries : (MapOp.run m ops').2.toList.Perm (MapOp.run m ops).2.toList :=
      Sharded.toList_perm_of_get? hbuckets hslots
    refine ⟨hanswers, hslots, ?_, ?_⟩
    · rw [Sharded.size_eq_length, Sharded.size_eq_length, hentries.length_eq]
    · rw [Sharded.keys_eq, Sharded.keys_eq]
      exact hentries.map Prod.fst

/-- Three hashes of one bucket: taking one out moves another, before or after that other gets a new value. -/
theorem run_reordered_in_one_bucket :
    let a := Hash.ofBytes [0, 2]
    let b := Hash.ofBytes [0, 4]
    let c := Hash.ofBytes [0, 6]
    let ops : List MapOp := [.put a 1, .put b 2, .put c 3, .delete a, .set c 4]
    let ops' : List MapOp := [.put c 3, .set c 4, .put a 1, .put b 2, .delete a]
    let m : Sharded (EntryList Hash UInt64) := .withBuckets 4 2
    (∀ op ∈ ops, op.hash?.isSome = true) ∧ (MapOp.run m ops').2.keys.Perm (MapOp.run m ops).2.keys := by
  intro a b c ops ops' m
  let r : Reordering ops ops' :=
    { place := ⟨![2, 3, 0, 4, 1], ![2, 4, 0, 1, 3], by decide, by decide⟩
      same := fun i => by fin_cases i <;> rfl
      inOrder := by decide }
  have hsingle : ∀ op ∈ ops, op.hash?.isSome = true := by decide
  exact ⟨hsingle, ((run_reordered r hsingle).2 m).2.2.2⟩

end ShardStore
