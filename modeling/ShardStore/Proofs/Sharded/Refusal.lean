import ShardStore.Proofs.Sharded.Contents
import ShardStore.Proofs.Store.Refusal

/-!
# What a sharded map refuses

An operation on one hash is refused where the store of its slot refuses it, and before that where the slot is missing. A
refused operation leaves all slots as they were, and an accepted one changes the entry of its hash in its own slot only.
-/

namespace ShardStore

variable {op : MapOp} {e : Effect Hash UInt64}

theorem MapOp.refused_onMissing (heffect : op.effect? = some e) (error : StoreError) : (op.onMissing error).Refused := by
  cases op <;> simp only [effect?, Option.some.injEq, reduceCtorEq] at heffect <;> subst heffect <;>
    simp [onMissing, MapAnswer.Refused]

/-- Where a hash is absent, to look for it and to take it out come to the same. -/
theorem Store.stepInSlot_eq {τ : Type} [Table τ Hash UInt64] [LawfulTable τ] [SteadyTable τ] (s : Store τ) (op : MapOp) :
    op.stepInSlot s = op.step s := by
  rcases s.stepInSlot_cases op with heq | ⟨h, rfl, habsent, heq⟩
  · exact heq
  · refine Prod.ext (s.stepInSlot_fst _) ?_
    rw [heq]
    exact (delete_of_absent (contains_eq_false_iff.1 habsent)).symm

namespace Sharded

variable {τ : Type} [Table τ Hash UInt64] {m : Sharded τ} {b : UInt16}

theorem keys_withSlot_perm (hb : b ≤ m.buckets) (s : Store τ) :
    (m.withSlot b (some s)).keys.Perm (s.keys ++ (m.withSlot b none).keys) := by
  have hall := (toList_withSlot_perm hb s).map Prod.fst
  rwa [List.map_append, ← Store.keys_eq, ← keys_eq, ← keys_eq] at hall

variable [LawfulTable τ]

theorem allOrNothing [SteadyTable τ] (m : Sharded τ) (heffect : op.effect? = some e) :
    AllOrNothing e (fun n h => (n.slot? (m.bucketFor e.key)).bind (·.get? h)) keys size
      ((m.slot? (m.bucketFor e.key)).isSome = true) (op.step m).1.Refused m (op.step m).2 := by
  have hsingle := MapOp.hash?_of_effect? heffect
  cases hs : m.slot? (m.bucketFor e.key) with
  | some s =>
      have hb := m.bucketFor_le e.key
      have hkeys := keys_withSlot_perm hb s
      rw [withSlot_eq_self hs] at hkeys
      rw [step_of_live hsingle hs, s.stepInSlot_eq]
      refine (s.allOrNothing heffect).of_part (fun n => n.slot? (m.bucketFor e.key)) hs ?_ rfl (fun hsame => ?_) hkeys
        (keys_withSlot_perm hb (op.step s).2) fun n => n.length_keys.symm
      · rw [slot?_withSlot_of_le hb, if_pos rfl]
      · rw [hsame, withSlot_eq_self hs]
  | none =>
      have hrefused := MapOp.refused_onMissing heffect (m.missing (m.bucketFor e.key))
      rw [step_of_missing hsingle hs]
      exact ⟨iff_of_true hrefused (by simp), fun _ => rfl, fun hdone => absurd hrefused hdone,
        fun hdone => absurd hrefused hdone, fun hdone => absurd hrefused hdone, fun hdone => absurd hrefused hdone⟩

end Sharded
end ShardStore
