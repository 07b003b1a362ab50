import ShardStore.Proofs.Store.Cell

/-!
# Batches

A batch adds hashes one after another and stops at the first that is there, be it from before or from the batch itself.
What it has added by then stays, with the value of the batch, and nothing else changes.
-/

namespace ShardStore.Store

variable {τ : Type} [Table τ Hash UInt64]

/-- The hashes that a batch adds before it ends or stops. -/
def added (s : Store τ) : List Hash → UInt64 → List Hash
  | [], _ => []
  | h :: hs, v =>
    match s.put h v with
    | (.ok (), s) => h :: s.added hs v
    | (.error _, _) => []

variable {s : Store τ} {h : Hash} {hs : List Hash} {v old : UInt64}

theorem putAll_error {e : StoreError} (herror : (s.putAll hs v).1 = .error e) : ∃ x ∈ hs, e = .present x.toText := by
  induction hs generalizing s with
  | nil => cases herror
  | cons h hs ih =>
      rw [putAll] at herror
      split at herror
      · obtain ⟨x, hx, hnamed⟩ := ih herror
        exact ⟨x, List.mem_cons_of_mem _ hx, hnamed⟩
      · next hput =>
          cases herror
          exact ⟨h, List.mem_cons_self .., put_error (congrArg Prod.fst hput)⟩

variable [LawfulTable τ]

theorem added_of_present (hget : s.get? h = some old) : s.added (h :: hs) v = [] := by
  simp only [added, put_of_present hget]

theorem added_of_absent (hget : s.get? h = none) : s.added (h :: hs) v = h :: (s.put h v).2.added hs v := by
  simp only [added, put_of_absent hget]

theorem putAll_of_present (hget : s.get? h = some old) :
    s.putAll (h :: hs) v = (.error (.present h.toText), s) := by
  simp only [putAll, put_of_present hget]

theorem putAll_of_absent (hget : s.get? h = none) : s.putAll (h :: hs) v = (s.put h v).2.putAll hs v := by
  simp only [putAll, put_of_absent hget]

/-- A batch adds all of its hashes, or it stops behind those that it has added and names the next one. -/
theorem putAll_ends (s : Store τ) (hs : List Hash) (v : UInt64) :
    (s.putAll hs v).1 = .ok () ∧ s.added hs v = hs ∨
      ∃ x rest, hs = s.added hs v ++ x :: rest ∧ (s.putAll hs v).1 = .error (.present x.toText) := by
  induction hs generalizing s with
  | nil => exact Or.inl ⟨rfl, rfl⟩
  | cons h hs ih =>
      cases hget : s.get? h with
      | some old =>
          refine Or.inr ⟨h, hs, ?_, ?_⟩
          · rw [added_of_present hget, List.nil_append]
          · rw [putAll_of_present hget]
      | none =>
          rw [putAll_of_absent hget, added_of_absent hget]
          rcases ih (s.put h v).2 with ⟨hdone, hall⟩ | ⟨x, rest, hsplit, hstop⟩
          · exact Or.inl ⟨hdone, by rw [hall]⟩
          · exact Or.inr ⟨x, rest, by rw [List.cons_append, ← hsplit], hstop⟩

theorem added_subset (s : Store τ) (hs : List Hash) (v : UInt64) : s.added hs v ⊆ hs := by
  rcases s.putAll_ends hs v with ⟨-, hall⟩ | ⟨x, rest, hsplit, -⟩
  · rw [hall]
    exact List.Subset.refl hs
  · intro k hfound
    rw [hsplit]
    exact List.mem_append_left _ hfound

theorem get?_put_of_absent (hget : s.get? h = none) (v : UInt64) (k : Hash) :
    (s.put h v).2.get? k = if h = k then some v else s.get? k := by
  rw [get?_put, hget, Option.getD_none]

theorem get?_putAll (s : Store τ) (hs : List Hash) (v : UInt64) (k : Hash) :
    (s.putAll hs v).2.get? k = if k ∈ s.added hs v then some v else s.get? k := by
  induction hs generalizing s with
  | nil => rfl
  | cons h hs ih =>
      cases hget : s.get? h with
      | some old => simp [putAll_of_present hget, added_of_present hget]
      | none =>
          rw [putAll_of_absent hget, added_of_absent hget, ih, get?_put_of_absent hget]
          by_cases hnow : h = k
          · subst hnow
            simp
          · simp [hnow, Ne.symm hnow]

theorem get?_of_mem_added {k : Hash} (hk : k ∈ s.added hs v) : s.get? k = none := by
  induction hs generalizing s with
  | nil => cases hk
  | cons h hs ih =>
      cases hget : s.get? h with
      | some old =>
          rw [added_of_present hget] at hk
          cases hk
      | none =>
          rw [added_of_absent hget] at hk
          rcases List.mem_cons.1 hk with rfl | hlater
          · exact hget
          · have hleft := ih hlater
            rw [get?_put_of_absent hget] at hleft
            split at hleft
            · cases hleft
            · exact hleft

/-! ## Batches on two stores -/

variable {τ' : Type} [Table τ' Hash UInt64] [LawfulTable τ']

/-- Of a store, a batch sees no more than the cells of its own hashes. -/
theorem putAll_congr {s : Store τ} {t : Store τ'} {hs : List Hash} (hsame : ∀ h ∈ hs, s.get? h = t.get? h) (v : UInt64) :
    s.added hs v = t.added hs v ∧ (s.putAll hs v).1 = (t.putAll hs v).1 := by
  induction hs generalizing s t with
  | nil => exact ⟨rfl, rfl⟩
  | cons h hs ih =>
      have hhead : s.get? h = t.get? h := hsame h (List.mem_cons_self ..)
      cases hget : s.get? h with
      | some old =>
          have hget' : t.get? h = some old := hhead ▸ hget
          rw [added_of_present hget, added_of_present hget', putAll_of_present hget, putAll_of_present hget']
          exact ⟨rfl, rfl⟩
      | none =>
          have hget' : t.get? h = none := hhead ▸ hget
          rw [added_of_absent hget, added_of_absent hget', putAll_of_absent hget, putAll_of_absent hget']
          obtain ⟨hadded, houtcome⟩ := ih (s := (s.put h v).2) (t := (t.put h v).2) fun k hk => by
            rw [get?_put_of_absent hget, get?_put_of_absent hget', hsame k (List.mem_cons_of_mem _ hk)]
          exact ⟨congrArg _ hadded, houtcome⟩

end ShardStore.Store
