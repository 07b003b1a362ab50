import ShardStore.Proofs.KeySet
import ShardStore.Proofs.Store.Batch
import ShardStore.Proofs.Store.Run
import ShardStore.Proofs.Walk

/-!
# Stores over different tables

Two stores that look-ups cannot tell apart answer every operation alike and remain so, be their tables of one kind or not. All
that shows of a table is the order of its list. The same holds of sets.
-/

namespace ShardStore

/-- The answers to an operation say the same, where `R` is what the lists of two maps have in common. -/
def MapOp.AnswersAlike (R : ∀ {α : Type}, List α → List α → Prop) : MapOp → MapAnswer → MapAnswer → Prop
  | .keys, .keys hs, .keys hs' => R hs hs'
  | .walk decide, .visited es, .visited es' => VisitsAlike R decide es es'
  | _, answer, answer' => answer = answer'

/-- The answers to an operation on sets say the same, up to the order of lists. -/
def SetOp.AnswersAlike : SetOp → SetAnswer → SetAnswer → Prop
  | .keys, .keys hs, .keys hs' => hs.Perm hs'
  | .walk decide, .visited hs, .visited hs' => VisitsAlike List.Perm decide hs hs'
  | _, answer, answer' => answer = answer'

theorem MapOp.answersAlike_of_eq {R : ∀ {α : Type}, List α → List α → Prop} {op : MapOp} {h : Hash}
    (hsingle : op.hash? = some h) {answer answer' : MapAnswer} (hanswer : answer = answer') :
    op.AnswersAlike R answer answer' := by
  cases op <;> simp only [MapOp.hash?, reduceCtorEq] at hsingle <;> exact hanswer

/-! ## Stores -/

namespace Store

variable {τ τ' : Type} [Table τ Hash UInt64] [LawfulTable τ] [Table τ' Hash UInt64] [LawfulTable τ']

/-- Look-ups find the same in both stores. -/
def Alike (s : Store τ) (s' : Store τ') : Prop := ∀ h, s.get? h = s'.get? h

variable {s : Store τ} {s' : Store τ'}

theorem alike_withCapacity (hint hint' : Nat) : (withCapacity hint : Store τ).Alike (withCapacity hint' : Store τ') :=
  fun h => (get?_withCapacity hint h).trans (get?_withCapacity hint' h).symm

theorem Alike.putAll (ha : s.Alike s') (hs : List Hash) (v : UInt64) :
    (s.putAll hs v).1 = (s'.putAll hs v).1 ∧ (s.putAll hs v).2.Alike (s'.putAll hs v).2 := by
  obtain ⟨hadded, houtcome⟩ := putAll_congr (fun h (_ : h ∈ hs) => ha h) v
  refine ⟨houtcome, fun k => ?_⟩
  rw [get?_putAll, get?_putAll, hadded, ha k]

theorem Alike.step (ha : s.Alike s') (op : MapOp) :
    op.AnswersAlike List.Perm (op.step s).1 (op.step s').1 ∧ (op.step s).2.Alike (op.step s').2 := by
  cases hop : op.hash? with
  | some h =>
      refine ⟨MapOp.answersAlike_of_eq hop ?_, fun k => ?_⟩
      · rw [s.step_fst hop, s'.step_fst hop, ha h]
      · rw [s.get?_step hop, s'.get?_step hop, ha h, ha k]
  | none =>
      cases op <;> simp only [MapOp.hash?, reduceCtorEq] at hop
      case putAll hs v =>
        obtain ⟨houtcome, hnext⟩ := ha.putAll hs v
        exact ⟨congrArg MapAnswer.outcome houtcome, hnext⟩
      case size => exact ⟨congrArg MapAnswer.count (size_eq_of_get? ha), ha⟩
      case keys => exact ⟨keys_perm_of_get? ha, ha⟩
      case walk decide => exact ⟨visitsAlike_walk (toList_perm_of_get? ha) decide, ha⟩

theorem Alike.run (ha : s.Alike s') (ops : List MapOp) : (MapOp.run s ops).2.Alike (MapOp.run s' ops).2 := by
  induction ops generalizing s s' with
  | nil => exact ha
  | cons op ops ih => exact ih (ha.step op).2

end Store

/-! ## Sets -/

namespace KeySet

variable {σ σ' : Type} [Table σ Hash Unit] [LawfulTable σ] [Table σ' Hash Unit] [LawfulTable σ']

/-- The sets have the same hashes. -/
def Alike (s : KeySet σ) (s' : KeySet σ') : Prop := ∀ h, s.cell? h = s'.cell? h

variable {s : KeySet σ} {s' : KeySet σ'}

theorem alike_withCapacity (hint hint' : Nat) : (withCapacity hint : KeySet σ).Alike (withCapacity hint' : KeySet σ') :=
  fun h => (cell?_withCapacity hint h).trans (cell?_withCapacity hint' h).symm

theorem Alike.put (ha : s.Alike s') (h : Hash) : (s.put h).Alike (s'.put h) := by
  intro k
  rw [cell?_put, cell?_put, ha k]

theorem Alike.putAll (ha : s.Alike s') (hs : List Hash) : (s.putAll hs).Alike (s'.putAll hs) := by
  induction hs generalizing s s' with
  | nil => exact ha
  | cons h hs ih => exact ih (ha.put h)

theorem Alike.delete (ha : s.Alike s') (h : Hash) :
    (s.delete h).1 = (s'.delete h).1 ∧ (s.delete h).2.Alike (s'.delete h).2 := by
  refine ⟨?_, fun k => ?_⟩
  · rw [delete_eq, delete_eq, ha h]
  · rw [cell?_delete, cell?_delete, ha k]

theorem Alike.step (ha : s.Alike s') (op : SetOp) :
    op.AnswersAlike (op.step s).1 (op.step s').1 ∧ (op.step s).2.Alike (op.step s').2 := by
  cases op with
  | put h => exact ⟨rfl, ha.put h⟩
  | putAll hs => exact ⟨rfl, ha.putAll hs⟩
  | get h =>
      refine ⟨congrArg SetAnswer.value ?_, ha⟩
      rw [get?, get?, contains_eq, contains_eq, ha h]
  | contains h =>
      refine ⟨congrArg SetAnswer.truth ?_, ha⟩
      rw [contains_eq, contains_eq, ha h]
  | delete h =>
      obtain ⟨houtcome, hnext⟩ := ha.delete h
      exact ⟨congrArg SetAnswer.outcome houtcome, hnext⟩
  | size => exact ⟨congrArg SetAnswer.count (size_eq_of_cell? ha), ha⟩
  | keys => exact ⟨keys_perm_of_cell? ha, ha⟩
  | walk decide => exact ⟨visitsAlike_walk (keys_perm_of_cell? ha) decide, ha⟩

theorem Alike.run (ha : s.Alike s') (ops : List SetOp) : (SetOp.run s ops).2.Alike (SetOp.run s' ops).2 := by
  induction ops generalizing s s' with
  | nil => exact ha
  | cons op ops ih => exact ih (ha.step op).2

end KeySet
end ShardStore
