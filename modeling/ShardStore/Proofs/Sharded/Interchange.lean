import ShardStore.Proofs.Sharded.Contents
import ShardStore.Proofs.Sharded.Isolation
import ShardStore.Proofs.Store.Interchange

/-!
# Sharded maps over different tables

Two sharded maps of as many buckets in which look-ups find the same in every slot answer every operation alike and remain so.
They list their slots in one order, and each slot in an order of its own.
-/

namespace ShardStore

/-- Both lists are made up of blocks of these lengths, and each block has the same items in both. -/
def PermInBlocks (sizes : List Nat) {α : Type} (items items' : List α) : Prop :=
  ∃ blocks blocks' : List (List α), blocks.map List.length = sizes ∧ List.Forall₂ List.Perm blocks blocks' ∧
    items = blocks.flatten ∧ items' = blocks'.flatten

/-- The answers to an operation on sharded maps say the same, where the live slots had `sizes`. -/
def ShardedOp.AnswersAlike {τ τ' : Type} [Table τ Hash UInt64] [Table τ' Hash UInt64] (sizes : List Nat) :
    ShardedOp → ShardedAnswer τ → ShardedAnswer τ' → Prop
  | .map op, .map answer, .map answer' => op.AnswersAlike (PermInBlocks sizes) answer answer'
  | _, .map answer, .map answer' => answer = answer'
  | _, .store s, .store s' => Option.Rel Store.Alike s s'
  | _, _, _ => False

/-! ## The first entry of a hash -/

theorem findEntry_append {κ ν : Type} [DecidableEq κ] (k : κ) (es es' : List (κ × ν)) :
    findEntry k (es ++ es') = (findEntry k es).or (findEntry k es') := by
  induction es with
  | nil => rfl
  | cons e es ih =>
      rw [List.cons_append, findEntry, findEntry, ih]
      split <;> rfl

namespace Store

variable {τ : Type} [Table τ Hash UInt64] [LawfulTable τ]

theorem findEntry_toList (s : Store τ) (h : Hash) : findEntry h s.toList = s.get? h :=
  Option.ext fun v => (mem_iff_findEntry s.nodup_keys h v).symm.trans (s.mem_toList_iff h v)

/-- Of several entries of a hash that is not there, the first is added. -/
theorem get?_foldl_put (s : Store τ) (es : List Entry) (h : Hash) :
    (es.foldl (fun out e => (out.put e.1 e.2).2) s).get? h = (s.get? h).or (findEntry h es) := by
  induction es generalizing s with
  | nil => rw [List.foldl_nil, findEntry, Option.or_none]
  | cons e es ih =>
      rw [List.foldl_cons, ih, get?_put, findEntry]
      by_cases he : e.1 = h
      · subst he
        rw [if_pos rfl, if_pos rfl]
        cases s.get? e.1 <;> rfl
      · rw [if_neg he, if_neg he]

end Store

namespace Sharded

variable {τ τ' : Type} [Table τ Hash UInt64] [Table τ' Hash UInt64] {m : Sharded τ} {m' : Sharded τ'}

/-! ## Maps that are alike -/

/-- Maps of as many buckets that have the same in every slot of every hash. -/
abbrev Alike (m : Sharded τ) (m' : Sharded τ') : Prop := AgreeOff (fun _ _ => False) m m'

theorem Alike.slots (ha : m.Alike m') (b : UInt16) : Option.Rel Store.Alike (m.slot? b) (m'.slot? b) :=
  slots_rel_of_cell? (fun b h => ha.cells b h id) b

theorem Alike.live (ha : m.Alike m') : List.Forall₂ Store.Alike m.live m'.live := live_rel ha.buckets ha.slots

/-- What is listed store by store is alike if it is so for each store. -/
theorem Alike.permInBlocks (ha : m.Alike m') {α : Type} {list : Store τ → List α} {list' : Store τ' → List α}
    (hlength : ∀ s, (list s).length = s.size) (hlist : ∀ s s', s.Alike s' → (list s).Perm (list' s')) :
    PermInBlocks (m.live.map Store.size) (m.live.flatMap list) (m'.live.flatMap list') := by
  refine ⟨m.live.map list, m'.live.map list', ?_, ?_, List.flatMap_def .., List.flatMap_def ..⟩
  · rw [List.map_map]
    exact List.map_congr_left fun s _ => hlength s
  · rw [List.forall₂_map_left_iff, List.forall₂_map_right_iff]
    exact ha.live.imp fun s s' => hlist s s'

variable [LawfulTable τ] [LawfulTable τ']

theorem alike_withBuckets (hint hint' : Nat) (n : UInt16) :
    (withBuckets hint n : Sharded τ).Alike (withBuckets hint' n : Sharded τ') where
  buckets := rfl
  cells b h _ := by
    rw [cell?, cell?, slot?_withBuckets, slot?_withBuckets]
    split
    · rw [Option.map_some, Option.map_some, Store.get?_withCapacity, Store.get?_withCapacity]
    · rfl

theorem Alike.size_eq (ha : m.Alike m') : m.size = m'.size := by
  rw [size_eq_length, size_eq_length]
  exact (toList_perm_of_get? ha.buckets ha.slots).length_eq

theorem Alike.length_walk (ha : m.Alike m') (count : Nat → Signal) :
    (m.walk (recording (counting count)) []).length = (m'.walk (recording (counting count)) []).length := by
  have hfold : ∀ {stores stores'}, List.Forall₂ Store.Alike stores stores' → ∀ {seen seen' : List Entry},
      seen.length = seen'.length →
      (stores.foldl (fun seen (s : Store τ) => s.walk (recording (counting count)) seen) seen).length =
        (stores'.foldl (fun seen (s : Store τ') => s.walk (recording (counting count)) seen) seen').length := by
    intro stores stores' hstores
    induction hstores with
    | nil => exact fun hseen => hseen
    | cons hstore _ ih =>
        exact fun hseen => ih (length_walk_counting count hseen (Store.toList_perm_of_get? hstore).length_eq)
  exact hfold ha.live rfl

theorem get?_flatten (m : Sharded τ) (h : Hash) : m.flatten.get? h = findEntry h m.toList := by
  rw [flatten, Store.get?_foldl_put, Store.get?_withCapacity, Option.none_or]
  rfl

theorem Alike.flatten (ha : m.Alike m') : m.flatten.Alike m'.flatten := by
  intro h
  rw [get?_flatten, get?_flatten, toList, toList]
  have hlive := ha.live
  generalize m.live = stores, m'.live = stores' at hlive
  induction hlive with
  | nil => rfl
  | cons hstore _ ih =>
      rw [List.flatMap_cons, List.flatMap_cons, findEntry_append, findEntry_append, ih, Store.findEntry_toList,
        Store.findEntry_toList, hstore h]

/-! ## Operations and runs -/

theorem Alike.answer_map (ha : m.Alike m') (op : MapOp) :
    op.AnswersAlike (PermInBlocks (m.live.map Store.size)) (op.step m).1 (op.step m').1 := by
  cases hop : op.hash? with
  | some h => exact MapOp.answersAlike_of_eq hop (ha.answer_single hop id)
  | none =>
      cases op <;> simp only [MapOp.hash?, reduceCtorEq] at hop
      case putAll hs v => exact congrArg MapAnswer.outcome (ha.putAll (fun _ _ => id) v).1
      case size => exact congrArg MapAnswer.count ha.size_eq
      case keys => exact ha.permInBlocks Store.length_keys fun _ _ => Store.keys_perm_of_get?
      case walk decide =>
        constructor
        · intro hdecide
          have hall : m.walk (recording decide) [] = m.toList := m.walk_recording hdecide
          have hall' : m'.walk (recording decide) [] = m'.toList := m'.walk_recording hdecide
          simp only [TransactionMap.walk, hall, hall']
          exact ha.permInBlocks Store.length_toList fun _ _ => Store.toList_perm_of_get?
        · rintro count rfl
          exact ha.length_walk count

theorem Alike.answer_putAllIn (ha : m.Alike m') (b : UInt16) (hs : List Hash) (v : UInt64) :
    (m.putAllIn b hs v).1 = (m'.putAllIn b hs v).1 := by
  have hslot := ha.slots b
  rw [putAllIn, putAllIn, tryOnSlot_eq, tryOnSlot_eq, missing, missing, ha.buckets]
  generalize m.slot? b = o, m'.slot? b = o' at hslot ⊢
  cases hslot with
  | none => rfl
  | some hstore => exact (hstore.putAll hs v).1

end Sharded

namespace ShardedOp

variable {τ τ' : Type} [Table τ Hash UInt64] [LawfulTable τ] [Table τ' Hash UInt64] [LawfulTable τ']
variable {m : Sharded τ} {m' : Sharded τ'}

theorem separates_nowhere (n : UInt16) (op : ShardedOp) : op.Separates n fun _ _ => False := by
  cases op with
  | map op =>
      cases op with
      | putAll hs v => exact fun _ _ => id
      | _ => trivial
  | putAllIn b hs v => exact Or.inr fun _ _ => id
  | removeBucket | flatten => trivial

theorem alike_step (ha : m.Alike m') (op : ShardedOp) :
    op.AnswersAlike (m.live.map Store.size) (op.step m).1 (op.step m').1 ∧ (op.step m).2.Alike (op.step m').2 := by
  refine ⟨?_, ha.step (separates_nowhere _ op)⟩
  cases op with
  | map op => exact ha.answer_map op
  | putAllIn b hs v => exact congrArg (fun o => MapAnswer.outcome o) (ha.answer_putAllIn b hs v)
  | removeBucket b =>
      change Option.Rel Store.Alike (m.removeBucket b).1 (m'.removeBucket b).1
      rw [Sharded.removeBucket_eq, Sharded.removeBucket_eq]
      exact ha.slots b
  | flatten => exact .some ha.flatten

theorem alike_run (ha : m.Alike m') (ops : List ShardedOp) : (run m ops).2.Alike (run m' ops).2 :=
  ha.run fun op _ => separates_nowhere _ op

end ShardedOp
end ShardStore
