import ShardStore.Proofs.KeySet
import ShardStore.Proofs.Store.Cell
import ShardStore.Proofs.Table.Effect

/-!
# What a store refuses

An operation that adds, changes or takes out a hash is refused just if the hash is there when it should not be, or is not
when it should. A refused operation leaves the store as it was, and an accepted one changes the entry of its hash only. A set
takes out only what it has, and never refuses to add.
-/

namespace ShardStore

namespace MapOp

/-- The effect of an operation that can be refused. -/
def effect? : MapOp → Option (Effect Hash UInt64)
  | .put h v | .setIfAbsent h v => some (.add h v)
  | .set h v | .setIfPresent h v => some (.change h v)
  | .delete h => some (.drop h)
  | _ => none

end MapOp

/-- An answer says that nothing was done. -/
def MapAnswer.Refused (answer : MapAnswer) : Prop := answer = .truth false ∨ ∃ error, answer = .outcome (.error error)

variable {op : MapOp} {e : Effect Hash UInt64}

/-! ## Cells -/

namespace MapOp

theorem hash?_of_effect? (heffect : op.effect? = some e) : op.hash? = some e.key := by
  cases op <;> simp only [effect?, Option.some.injEq, reduceCtorEq] at heffect <;> subst heffect <;> rfl

theorem refused_onCell_iff (heffect : op.effect? = some e) (cell : Option UInt64) :
    (op.onCell cell).1.Refused ↔ ¬e.Allowed cell := by
  cases op <;> simp only [effect?, Option.some.injEq, reduceCtorEq] at heffect <;> subst heffect <;>
    cases cell <;> simp [onCell, MapAnswer.Refused, Effect.Allowed]

theorem onCell_snd_of_allowed (heffect : op.effect? = some e) {cell : Option UInt64} (hallowed : e.Allowed cell) :
    (op.onCell cell).2 = e.left := by
  cases op <;> simp only [effect?, Option.some.injEq, reduceCtorEq] at heffect <;> subst heffect <;>
    cases cell <;> simp_all [onCell, Effect.left, Effect.Allowed]

end MapOp

/-! ## Stores -/

namespace Store

variable {τ : Type} [Table τ Hash UInt64]

theorem setIfPresent_of_absent [SteadyTable τ] {s : Store τ} {h : Hash} (hget : s.get? h = none) (v : UInt64) :
    (s.setIfPresent h v).2 = s :=
  congrArg Store.mk (SteadyTable.replace_of_absent s.table h v hget)

theorem delete_of_absent [LawfulTable τ] [SteadyTable τ] {s : Store τ} {h : Hash} (hget : s.get? h = none) :
    (s.delete h).2 = s := by
  have hremove : Table.remove s.table h = (none, s.table) :=
    Prod.ext ((LawfulTable.remove_fst s.table h).trans hget) (SteadyTable.remove_of_absent s.table h hget)
  rw [delete, hremove]

variable [LawfulTable τ] [SteadyTable τ]

theorem step_of_not_allowed {s : Store τ} (heffect : op.effect? = some e) (hnot : ¬e.Allowed (s.get? e.key)) :
    (op.step s).2 = s := by
  cases op <;> simp only [MapOp.effect?, Option.some.injEq, reduceCtorEq] at heffect <;> subst heffect <;>
    simp only [MapOp.step, TransactionMap.put, TransactionMap.set, TransactionMap.setIfPresent,
      TransactionMap.setIfAbsent, TransactionMap.delete]
  case put h v =>
    obtain ⟨old, hget⟩ : ∃ old, s.get? h = some old := Option.ne_none_iff_exists'.1 hnot
    rw [put_of_present hget]
  case setIfAbsent h v =>
    obtain ⟨old, hget⟩ : ∃ old, s.get? h = some old := Option.ne_none_iff_exists'.1 hnot
    rw [setIfAbsent_snd, put_of_present hget]
  case set h v =>
    have hget : s.get? h = none := Classical.not_not.1 hnot
    rw [set_snd, setIfPresent_of_absent hget]
  case setIfPresent h v =>
    have hget : s.get? h = none := Classical.not_not.1 hnot
    rw [setIfPresent_of_absent hget]
  case delete h =>
    have hget : s.get? h = none := Classical.not_not.1 hnot
    rw [delete_of_absent hget]

theorem allOrNothing (s : Store τ) (heffect : op.effect? = some e) :
    AllOrNothing e get? keys size True (op.step s).1.Refused s (op.step s).2 := by
  have hsingle := MapOp.hash?_of_effect? heffect
  refine AllOrNothing.of_table Store.table ?_ (step_of_not_allowed heffect) fun hallowed k => ?_
  · rw [s.step_fst hsingle]
    exact MapOp.refused_onCell_iff heffect _
  · have hallowed : e.Allowed (s.get? e.key) := hallowed
    have hget := s.get?_step hsingle k
    rw [MapOp.onCell_snd_of_allowed heffect hallowed] at hget
    exact hget

end Store

/-! ## Sets -/

namespace KeySet

variable {σ : Type} [Table σ Hash Unit] [LawfulTable σ]

theorem allOrNothing_delete [SteadyTable σ] (s : KeySet σ) (h : Hash) :
    AllOrNothing (.drop h) cell? keys size True ((s.delete h).1 ≠ .ok ()) s (s.delete h).2 := by
  rw [delete_eq]
  refine AllOrNothing.of_table KeySet.table ?_ (fun hnot => ?_) fun _ k => LawfulTable.get?_remove s.table h k
  · change (if (s.cell? h).isSome then Except.ok () else _) ≠ _ ↔ ¬s.cell? h ≠ none
    cases s.cell? h <;> simp
  · exact congrArg KeySet.mk (SteadyTable.remove_of_absent s.table h (Classical.not_not.1 hnot))

/-- A hash is added, or put in place of itself. -/
theorem allOrNothing_put {s : KeySet σ} {e : Effect Hash Unit} (hleft : e.left = some ())
    (hallowed : e.Allowed (s.cell? e.key)) : AllOrNothing e cell? keys size True False s (s.put e.key) :=
  AllOrNothing.of_table KeySet.table (iff_of_false id fun hnot => hnot hallowed) (fun hnot => (hnot hallowed).elim)
    fun _ k => hleft ▸ LawfulTable.get?_insert s.table e.key () k

end KeySet
end ShardStore
