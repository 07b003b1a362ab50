import ShardStore.Counted.Run
import ShardStore.Proofs.Table.Effect

/-!
# Puts and their count

A put adds a key that is not there, and moves the count with it; any other put changes nothing. So the count is the number of
entries, as far as it can count.
-/

namespace ShardStore.Counted

variable {τ : Type} [Table τ UInt64 UInt64] {s : Counted τ} {key value : UInt64}

/-- The keys, in the order of the table. -/
def keys (s : Counted τ) : List UInt64 := Table.keys s.table

/-- The number of entries, by the table. -/
def entries (s : Counted τ) : Nat := Table.size s.table

theorem put_error {e : StoreError} (herror : (s.put key value).1 = .error e) : e = .present (toString key) := by
  rw [put] at herror
  split at herror <;> cases herror
  rfl

/-- The count moves with the entries. -/
theorem count_put (hok : (s.put key value).1 = .ok ()) : (s.put key value).2.count = s.count + 1 := by
  rw [put] at hok ⊢
  split at hok
  · cases hok
  · next habsent => rw [if_neg habsent]

variable [LawfulTable τ]

theorem contains_eq (s : Counted τ) (key : UInt64) : s.contains key = (s.get? key).isSome :=
  LawfulTable.contains_eq s.table key

theorem put_of_present {old : UInt64} (hget : s.get? key = some old) (value : UInt64) :
    s.put key value = (.error (.present (toString key)), s) :=
  if_pos ((s.contains_eq key).trans (congrArg Option.isSome hget))

theorem put_of_absent (hget : s.get? key = none) (value : UInt64) :
    s.put key value = (.ok (), ⟨(Table.insert s.table key value).2, s.count + 1⟩) :=
  if_neg (Bool.eq_false_iff.1 ((s.contains_eq key).trans (congrArg Option.isSome hget)))

theorem put_fst (s : Counted τ) (key value : UInt64) :
    (s.put key value).1 = if (s.get? key).isSome then .error (.present (toString key)) else .ok () := by
  cases hget : s.get? key with
  | none => rw [put_of_absent hget]; rfl
  | some old => rw [put_of_present hget]; rfl

theorem put_fst_ne_ok_iff (s : Counted τ) (key value : UInt64) : (s.put key value).1 ≠ .ok () ↔ s.get? key ≠ none := by
  rw [put_fst]
  cases s.get? key <;> simp

theorem get?_put (s : Counted τ) (key value k : UInt64) :
    (s.put key value).2.get? k = if key = k then some ((s.get? key).getD value) else s.get? k := by
  cases hget : s.get? key with
  | none =>
      rw [put_of_absent hget]
      exact LawfulTable.get?_insert s.table key value k
  | some old =>
      rw [put_of_present hget]
      split
      · next hsame => rw [← hsame, hget]; rfl
      · rfl

theorem mem_keys_iff (s : Counted τ) (key : UInt64) : key ∈ s.keys ↔ (s.get? key).isSome = true := by
  rw [← contains_eq]
  exact Table.mem_keys_iff s.table key

theorem nodup_keys (s : Counted τ) : s.keys.Nodup := LawfulTable.nodup_keys s.table

theorem keys_withCapacity (hint : Nat) : (withCapacity hint : Counted τ).keys = [] := Table.keys_withCapacity hint

theorem allOrNothing_put (s : Counted τ) (key value : UInt64) :
    AllOrNothing (.add key value) get? keys entries True ((s.put key value).1 ≠ .ok ()) s (s.put key value).2 := by
  refine AllOrNothing.of_table table (s.put_fst_ne_ok_iff key value) (fun hnot => ?_) fun hget k => ?_
  · obtain ⟨old, hget⟩ : ∃ old, s.get? key = some old := Option.ne_none_iff_exists'.1 hnot
    rw [put_of_present hget]
  · have hget : s.get? key = none := hget
    have hput := put_of_absent hget value
    rw [hput]
    exact LawfulTable.get?_insert s.table key value k

/-! ## The count is the number of entries -/

/-- The count is the number of entries, in 64 bits. -/
def Counts (s : Counted τ) : Prop := s.count = .ofNat s.entries

theorem counts_withCapacity (hint : Nat) : (withCapacity hint : Counted τ).Counts := by
  rw [Counts, show (withCapacity hint : Counted τ).entries = 0 from Table.size_withCapacity hint]
  rfl

theorem Counts.put (hs : s.Counts) (key value : UInt64) : (s.put key value).2.Counts := by
  have hput := s.allOrNothing_put key value
  by_cases hok : (s.put key value).1 = .ok ()
  · have hsize : (s.put key value).2.entries = s.entries + 1 := hput.size (not_not.2 hok)
    rw [Counts, count_put hok, hs, hsize, UInt64.ofNat_add]
    rfl
  · rw [hput.unchanged hok]
    exact hs

theorem Counts.run (hs : s.Counts) (ops : List Op) : (Op.run s ops).2.Counts := by
  induction ops generalizing s with
  | nil => exact hs
  | cons op ops ih =>
      refine ih (s := (op.step s).2) ?_
      cases op with
      | put key value => exact hs.put key value
      | get | contains | size => exact hs

omit [LawfulTable τ] in
theorem Counts.size_eq (hs : s.Counts) (hfew : s.entries < UInt64.size) : s.size = s.entries := by
  rw [size, hs, UInt64.toNat_ofNat', Nat.mod_eq_of_lt hfew]

/-- The size grows with each entry, up to the last number that the count can have. -/
theorem Counts.size_put (hs : s.Counts) (hfew : s.entries + 1 < UInt64.size) (hok : (s.put key value).1 = .ok ()) :
    (s.put key value).2.size = s.size + 1 := by
  have hsize : (s.put key value).2.entries = s.entries + 1 := (s.allOrNothing_put key value).size (not_not.2 hok)
  rw [(hs.put key value).size_eq (hsize ▸ hfew), hs.size_eq (Nat.lt_of_succ_lt hfew), hsize]

end ShardStore.Counted
