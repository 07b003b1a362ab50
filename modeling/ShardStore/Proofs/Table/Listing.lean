import Mathlib.Data.List.Induction
import Mathlib.Data.List.Nodup
import Mathlib.Data.List.Perm.Basic
import ShardStore.Table.Lawful

/-!
# What a lawful table lists

The list of a lawful table is fixed by its look-up, up to the order: tables that find the same values list the same
entries, whatever they are made of.
-/

namespace ShardStore

/-! ## Items where they come first -/

section

variable {α : Type} [DecidableEq α]

theorem eraseDups_concat (l : List α) (a : α) :
    (l ++ [a]).eraseDups = if a ∈ l then l.eraseDups else l.eraseDups ++ [a] := by
  rw [List.eraseDups_append, List.removeAll]
  split
  · next ha => rw [List.filter_cons_of_neg (by simpa using ha), List.filter_nil, List.eraseDups_nil, List.append_nil]
  · next ha =>
      rw [List.filter_cons_of_pos (by simpa using ha), List.filter_nil, List.eraseDups_cons, List.filter_nil,
        List.eraseDups_nil]

theorem nodup_eraseDups (l : List α) : l.eraseDups.Nodup := by
  induction l using List.reverseRecOn with
  | nil => exact List.nodup_nil
  | append_singleton l a ih =>
      rw [eraseDups_concat]
      split
      · exact ih
      · next ha =>
          rw [← List.concat_eq_append]
          exact ih.concat fun hmem => ha (List.mem_eraseDups.1 hmem)

end

/-! ## What a table lists -/

namespace Table

variable {τ τ' κ ν : Type} [DecidableEq κ] [Table τ κ ν] [LawfulTable τ] [Table τ' κ ν] [LawfulTable τ']

theorem nodup_toList (t : τ) : (toList t).Nodup := .of_map Prod.fst (LawfulTable.nodup_keys t)

theorem mem_keys_iff (t : τ) (k : κ) : k ∈ keys t ↔ contains t k = true := by
  simp only [keys, LawfulTable.contains_eq, List.mem_map, Option.isSome_iff_exists, ← LawfulTable.mem_toList]
  constructor
  · rintro ⟨e, hfound, rfl⟩
    exact ⟨e.2, hfound⟩
  · rintro ⟨v, hfound⟩
    exact ⟨_, hfound, rfl⟩

theorem toList_perm_of_get? {t : τ} {t' : τ'} (hsame : ∀ k, get? t k = get? t' k) :
    (toList t).Perm (toList t') := by
  refine (List.perm_ext_iff_of_nodup (nodup_toList t) (nodup_toList t')).2 fun e => ?_
  rw [LawfulTable.mem_toList t e.1 e.2, LawfulTable.mem_toList t' e.1 e.2, hsame]

/-- One more key, and all others as before: one more entry. -/
theorem toList_perm_cons {t : τ} {t' : τ'} {k : κ} {v : ν} (hnew : get? t k = none)
    (hget : ∀ a, get? t' a = if k = a then some v else get? t a) : (toList t').Perm ((k, v) :: toList t) := by
  have hcons : ((k, v) :: toList t).Nodup := by
    refine List.nodup_cons.2 ⟨fun hfound => ?_, nodup_toList t⟩
    rw [LawfulTable.mem_toList, hnew] at hfound
    cases hfound
  refine (List.perm_ext_iff_of_nodup (nodup_toList t') hcons).2 fun e => ?_
  rw [List.mem_cons, LawfulTable.mem_toList t' e.1 e.2, LawfulTable.mem_toList t e.1 e.2, hget]
  by_cases hk : k = e.1
  · rw [if_pos hk, ← hk, hnew, Prod.ext_iff, Option.some_inj]
    simp [hk, eq_comm]
  · have hother : e ≠ (k, v) := fun he => hk (congrArg Prod.fst he).symm
    rw [if_neg hk]
    simp only [hother, false_or]

/-- The values, and so their types, do not matter for the keys. -/
theorem keys_perm_of_contains {σ ν' : Type} [Table σ κ ν'] [LawfulTable σ] {t : τ} {t' : σ}
    (hsame : ∀ k, contains t k = contains t' k) : (keys t).Perm (keys t') :=
  (List.perm_ext_iff_of_nodup (LawfulTable.nodup_keys t) (LawfulTable.nodup_keys t')).2 fun k => by
    rw [mem_keys_iff, mem_keys_iff, hsame]

theorem length_keys (t : τ) : (keys t).length = size t := by
  rw [keys, List.length_map, LawfulTable.length_toList]

theorem keys_withCapacity (hint : Nat) : keys (withCapacity hint : τ) = [] := by
  refine List.eq_nil_iff_forall_not_mem.2 fun k hk => ?_
  rw [mem_keys_iff, LawfulTable.contains_eq, LawfulTable.get?_withCapacity] at hk
  cases hk

theorem size_withCapacity (hint : Nat) : size (withCapacity hint : τ) = 0 := by
  rw [← length_keys, keys_withCapacity, List.length_nil]

theorem size_le_of_contains {t : τ} {t' : τ'} (hfound : ∀ k, contains t k = true → contains t' k = true) :
    size t ≤ size t' := by
  rw [← length_keys, ← length_keys]
  refine (List.subperm_of_subset (LawfulTable.nodup_keys t) fun k hk => ?_).length_le
  exact (mem_keys_iff t' k).2 (hfound k ((mem_keys_iff t k).1 hk))

theorem size_lt_of_contains {t : τ} {t' : τ'} {k : κ} (hfound : ∀ a, contains t a = true → contains t' a = true)
    (habsent : contains t k = false) (hpresent : contains t' k = true) : size t < size t' := by
  have hnew : k ∉ keys t := by
    rw [mem_keys_iff, habsent]
    exact Bool.false_ne_true
  have hsub : k :: keys t ⊆ keys t' := by
    refine List.cons_subset.2 ⟨(mem_keys_iff t' k).2 hpresent, fun a ha => ?_⟩
    exact (mem_keys_iff t' a).2 (hfound a ((mem_keys_iff t a).1 ha))
  rw [← length_keys, ← length_keys]
  exact (List.subperm_of_subset (List.nodup_cons.2 ⟨hnew, LawfulTable.nodup_keys t⟩) hsub).length_le

end Table
end ShardStore
