import ShardStore.KeySet
import ShardStore.Proofs.Table.Listing

/-!
# Sets, hash by hash

What is in a set of a hash decides what is answered about it, and an operation on one hash leaves all others as they are.
-/

namespace ShardStore.KeySet

variable {σ σ' : Type} [Table σ Hash Unit] [LawfulTable σ] [Table σ' Hash Unit] [LawfulTable σ']

omit [LawfulTable σ] in
/-- What the table of a set has of a hash. -/
def cell? (s : KeySet σ) (h : Hash) : Option Unit := Table.get? s.table h

theorem contains_eq (s : KeySet σ) (h : Hash) : s.contains h = (s.cell? h).isSome := LawfulTable.contains_eq s.table h

theorem cell?_withCapacity (hint : Nat) (h : Hash) : (withCapacity hint : KeySet σ).cell? h = none :=
  LawfulTable.get?_withCapacity hint h

theorem cell?_put (s : KeySet σ) (h k : Hash) : (s.put h).cell? k = if h = k then some () else s.cell? k :=
  LawfulTable.get?_insert s.table h () k

theorem delete_eq (s : KeySet σ) (h : Hash) :
    s.delete h = (if (s.cell? h).isSome then .ok () else .error (.absent h.toText), ⟨(Table.remove s.table h).2⟩) := by
  have hold : (Table.remove s.table h).1 = s.cell? h := LawfulTable.remove_fst s.table h
  rw [← hold, delete]
  split
  · next hremove => rw [hremove]; rfl
  · next hremove => rw [hremove]; rfl

theorem cell?_delete (s : KeySet σ) (h k : Hash) : (s.delete h).2.cell? k = if h = k then none else s.cell? k := by
  rw [delete_eq]
  exact LawfulTable.get?_remove s.table h k

theorem keys_perm_of_cell? {s : KeySet σ} {s' : KeySet σ'} (hsame : ∀ h, s.cell? h = s'.cell? h) :
    s.keys.Perm s'.keys :=
  (Table.toList_perm_of_get? hsame).map Prod.fst

theorem size_eq_of_cell? {s : KeySet σ} {s' : KeySet σ'} (hsame : ∀ h, s.cell? h = s'.cell? h) : s.size = s'.size := by
  rw [size, size, ← Table.length_keys, ← Table.length_keys]
  exact (keys_perm_of_cell? hsame).length_eq

end ShardStore.KeySet
