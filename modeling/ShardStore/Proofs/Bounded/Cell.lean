import ShardStore.Bounded
import ShardStore.Proofs.Table.Listing

/-!
# Bounded maps, key by key

What a bounded map has of a key, and whether there is room for one more, decide what an operation does to that key. All other
keys stay as they are, and so does the limit.
-/

namespace ShardStore

namespace Bounded

variable {τ κ ν : Type} [Table τ κ ν]

theorem isFull_eq_false_iff {m : Bounded τ} : m.isFull = false ↔ ∀ limit, m.limit = some limit → m.size < limit := by
  rw [isFull]
  cases m.limit <;> simp

/-- Whether a key can have a value: it is there already, or there is room for it. -/
def takes (m : Bounded τ) (k : κ) : Bool := m.contains k || !m.isFull

theorem takes_of_present {m : Bounded τ} {k : κ} (hpresent : m.contains k = true) : m.takes k = true := by
  rw [takes, hpresent, Bool.true_or]

theorem takes_of_absent {m : Bounded τ} {k : κ} (habsent : m.contains k = false) : m.takes k = !m.isFull := by
  rw [takes, habsent, Bool.false_or]

theorem takes_eq_false_iff {m : Bounded τ} {k : κ} : m.takes k = false ↔ m.contains k = false ∧ m.isFull = true := by
  rw [takes, Bool.or_eq_false_iff, Bool.not_eq_false']

theorem trySet_fst (m : Bounded τ) (k : κ) (v : ν) : (m.trySet k v).1 = m.takes k := by
  unfold trySet takes
  cases m.contains k <;> cases m.isFull <;> rfl

theorem set_of_not_takes {m : Bounded τ} {k : κ} (hkept : m.takes k = false) (v : ν) : m.set k v = m := by
  obtain ⟨habsent, hfull⟩ := takes_eq_false_iff.1 hkept
  simp only [set, trySet, habsent, hfull, Bool.false_eq_true, if_false, if_true]

theorem setIfAbsent_of_present {m : Bounded τ} {k : κ} {old : ν} (hget : m.get? k = some old) (v : ν) :
    m.setIfAbsent k v = ((old, false), m) := by
  rw [setIfAbsent, hget]

theorem setIfAbsent_snd_of_absent {m : Bounded τ} {k : κ} (hget : m.get? k = none) (v : ν) :
    (m.setIfAbsent k v).2 = m.set k v := by
  rw [setIfAbsent, hget]
  rfl

theorem limit_set (m : Bounded τ) (k : κ) (v : ν) : (m.set k v).limit = m.limit := by
  unfold set trySet
  split
  · rfl
  · split <;> rfl

/-! ## What each operation leaves -/

section

variable [DecidableEq κ] [LawfulTable τ]

theorem contains_eq (m : Bounded τ) (k : κ) : m.contains k = (m.get? k).isSome := LawfulTable.contains_eq m.table k

theorem contains_eq_false_iff {m : Bounded τ} {k : κ} : m.contains k = false ↔ m.get? k = none := by
  rw [contains_eq, Option.isSome_eq_false_iff, Option.isNone_iff_eq_none]

theorem setIfAbsent_of_absent {m : Bounded τ} {k : κ} (hget : m.get? k = none) (v : ν) :
    m.setIfAbsent k v = ((v, !m.isFull), m.set k v) := by
  have hanswer : (m.trySet k v).1 = !m.isFull := by rw [trySet_fst, takes_of_absent (contains_eq_false_iff.2 hget)]
  rw [setIfAbsent, hget, ← hanswer]
  rfl

theorem get?_set (m : Bounded τ) (k : κ) (v : ν) (a : κ) :
    (m.set k v).get? a = if k = a ∧ m.takes k = true then some v else m.get? a := by
  cases hpresent : m.contains k with
  | true =>
      have htakes := takes_of_present hpresent
      obtain ⟨old, hget⟩ := Option.isSome_iff_exists.1 ((m.contains_eq k).symm.trans hpresent)
      have hset : (m.set k v).table = (Table.replace m.table k v).2 := by rw [set, trySet, if_pos hpresent]
      rw [get?, hset, LawfulTable.get?_replace, show Table.get? m.table k = some old from hget]
      simp only [htakes, and_true, Option.map_some, get?]
  | false =>
      cases hfull : m.isFull with
      | true =>
          have htakes := takes_eq_false_iff.2 ⟨hpresent, hfull⟩
          rw [set_of_not_takes htakes, htakes, if_neg fun h => Bool.false_ne_true h.2]
      | false =>
          have htakes : m.takes k = true := by rw [takes_of_absent hpresent, hfull, Bool.not_false]
          have hset : (m.set k v).table = (Table.insert m.table k v).2 := by simp [set, trySet, hpresent, hfull]
          rw [get?, hset, LawfulTable.get?_insert]
          simp only [htakes, and_true, get?]

theorem get?_delete (m : Bounded τ) (k a : κ) : (m.delete k).get? a = if k = a then none else m.get? a :=
  LawfulTable.get?_remove m.table k a

theorem get?_deleteAll (m : Bounded τ) (ks : List κ) (a : κ) :
    (m.deleteAll ks).get? a = if a ∈ ks then none else m.get? a := by
  induction ks generalizing m with
  | nil => simp [deleteAll]
  | cons k ks ih =>
      have hrest : (m.deleteAll (k :: ks)).get? a = if a ∈ ks then none else (m.delete k).get? a := ih (m.delete k)
      rw [hrest, get?_delete]
      by_cases hk : k = a <;> by_cases ha : a ∈ ks <;> simp [hk, ha, eq_comm (a := a)]

theorem get?_clear (m : Bounded τ) (a : κ) : m.clear.get? a = none := LawfulTable.get?_withCapacity 0 a

/-! ## How many entries each operation leaves -/

theorem contains_set (m : Bounded τ) (k : κ) (v : ν) (a : κ) :
    (m.set k v).contains a = true ↔ m.contains a = true ∨ k = a ∧ m.takes k = true := by
  rw [contains_eq, contains_eq, get?_set]
  split
  · next hkept => exact iff_of_true rfl (.inr hkept)
  · next hkept => rw [or_iff_left hkept]

theorem size_set_of_present {m : Bounded τ} {k : κ} (hpresent : m.contains k = true) (v : ν) : (m.set k v).size = m.size := by
  refine Nat.le_antisymm (Table.size_le_of_contains fun a ha => ?_) (Table.size_le_of_contains fun a ha => ?_)
  · rcases (m.contains_set k v a).1 ha with hold | ⟨rfl, -⟩
    · exact hold
    · exact hpresent
  · exact (m.contains_set k v a).2 (.inl ha)

theorem size_set_of_new {m : Bounded τ} {k : κ} (habsent : m.contains k = false) (hroom : m.isFull = false) (v : ν) :
    (m.set k v).size = m.size + 1 := by
  have htakes : m.takes k = true := by rw [takes_of_absent habsent, hroom, Bool.not_false]
  have hget (a : κ) : (m.set k v).get? a = if k = a then some v else m.get? a := by
    simp only [get?_set, htakes, and_true]
  have hperm : (m.set k v).toList.Perm ((k, v) :: m.toList) := Table.toList_perm_cons (contains_eq_false_iff.1 habsent) hget
  calc
    (m.set k v).size = (m.set k v).toList.length := (LawfulTable.length_toList _).symm
    _ = m.toList.length + 1 := hperm.length_eq
    _ = m.size + 1 := congrArg (· + 1) (LawfulTable.length_toList _)

theorem contains_setAll {m : Bounded τ} {a : κ} (hpresent : m.contains a = true) (ks : List κ) (v : ν) :
    (m.setAll ks v).contains a = true := by
  induction ks generalizing m with
  | nil => exact hpresent
  | cons k ks ih => exact ih ((m.contains_set k v a).2 (.inl hpresent))

theorem absent_of_setAll {m : Bounded τ} {ks : List κ} {v : ν} {a : κ} (hdropped : (m.setAll ks v).contains a = false) :
    m.contains a = false :=
  Bool.eq_false_iff.2 fun hpresent => by
    rw [contains_setAll hpresent] at hdropped
    cases hdropped

theorem get?_setAll_of_not_mem {ks : List κ} {a : κ} (ha : a ∉ ks) (m : Bounded τ) (v : ν) :
    (m.setAll ks v).get? a = m.get? a := by
  induction ks generalizing m with
  | nil => rfl
  | cons k ks ih =>
      obtain ⟨hk, ha⟩ := not_or.1 (mt List.mem_cons.2 ha)
      have hfirst : (m.set k v).get? a = m.get? a := by rw [get?_set, if_neg fun h => hk h.1.symm]
      exact (ih ha (m.set k v)).trans hfirst

theorem get?_setAll_of_mem {m : Bounded τ} {ks : List κ} {v : ν} {a : κ} (ha : a ∈ ks)
    (hleft : (m.setAll ks v).contains a = true) : (m.setAll ks v).get? a = some v := by
  induction ks generalizing m with
  | nil => cases ha
  | cons k ks ih =>
      by_cases hmore : a ∈ ks
      · exact ih hmore hleft
      · obtain rfl : a = k := (List.mem_cons.1 ha).resolve_right hmore
        have hlast : (m.setAll (a :: ks) v).get? a = (m.set a v).get? a := get?_setAll_of_not_mem hmore (m.set a v) v
        have htakes : m.takes a = true := by
          rw [contains_eq, hlast, ← contains_eq] at hleft
          rcases (m.contains_set a v a).1 hleft with hold | ⟨-, hkept⟩
          · exact takes_of_present hold
          · exact hkept
        rw [hlast, get?_set, if_pos ⟨rfl, htakes⟩]

theorem get?_setAll (m : Bounded τ) (ks : List κ) (v : ν) (a : κ) :
    (m.setAll ks v).get? a = if a ∈ ks ∧ (m.setAll ks v).contains a = true then some v else m.get? a := by
  split
  · next hset => exact get?_setAll_of_mem hset.1 hset.2
  · next hnot =>
      by_cases ha : a ∈ ks
      · have hdropped : (m.setAll ks v).contains a = false := Bool.eq_false_iff.2 fun hleft => hnot ⟨ha, hleft⟩
        rw [contains_eq_false_iff.1 hdropped, contains_eq_false_iff.1 (absent_of_setAll hdropped)]
      · exact get?_setAll_of_not_mem ha m v

theorem size_le_setAll (m : Bounded τ) (ks : List κ) (v : ν) : m.size ≤ (m.setAll ks v).size :=
  Table.size_le_of_contains fun _ ha => contains_setAll ha ks v

theorem size_delete_le (m : Bounded τ) (k : κ) : (m.delete k).size ≤ m.size := by
  refine Table.size_le_of_contains fun a ha => ?_
  have hleft : (m.delete k).contains a = true := ha
  rw [contains_eq, get?_delete] at hleft
  split at hleft
  · cases hleft
  · exact (m.contains_eq a).trans hleft

theorem size_clear (m : Bounded τ) : m.clear.size = 0 := Table.size_withCapacity 0

end

end Bounded

/-! ## Runs -/

namespace BoundedOp

variable {τ κ ν : Type} [Table τ κ ν]

/-- What setting a key, taking one out and taking all out keep, every operation keeps. -/
theorem step_keeps {P : Bounded τ → Prop} (hset : ∀ m k v, P m → P (m.set k v)) (hdelete : ∀ m k, P m → P (m.delete k))
    (hclear : ∀ m, P m → P m.clear) {m : Bounded τ} (hstart : P m) (op : BoundedOp κ ν) : P (op.step m).2 := by
  cases op with
  | set k v => exact hset m k v hstart
  | setAll ks v =>
      show P (m.setAll ks v)
      induction ks generalizing m with
      | nil => exact hstart
      | cons k ks ih => exact ih (hset m k v hstart)
  | setIfAbsent k v =>
      show P (m.setIfAbsent k v).2
      cases hget : m.get? k with
      | some old =>
          rw [Bounded.setIfAbsent_of_present hget]
          exact hstart
      | none =>
          rw [Bounded.setIfAbsent_snd_of_absent hget]
          exact hset m k v hstart
  | delete k => exact hdelete m k hstart
  | deleteAll ks =>
      show P (m.deleteAll ks)
      induction ks generalizing m with
      | nil => exact hstart
      | cons k ks ih => exact ih (hdelete m k hstart)
  | clear => exact hclear m hstart
  | get | contains | size | limit | keys | entries | walk => exact hstart

theorem run_append (m : Bounded τ) (before after : List (BoundedOp κ ν)) :
    (run m (before ++ after)).2 = (run (run m before).2 after).2 := by
  induction before generalizing m with
  | nil => rfl
  | cons op before ih => exact ih (op.step m).2

theorem run_keeps {P : Bounded τ → Prop} (hset : ∀ m k v, P m → P (m.set k v)) (hdelete : ∀ m k, P m → P (m.delete k))
    (hclear : ∀ m, P m → P m.clear) {m : Bounded τ} (hstart : P m) (ops : List (BoundedOp κ ν)) : P (run m ops).2 := by
  induction ops generalizing m with
  | nil => exact hstart
  | cons op ops ih => exact ih (step_keeps hset hdelete hclear hstart op)

theorem limit_run (m : Bounded τ) (ops : List (BoundedOp κ ν)) : (run m ops).2.limit = m.limit :=
  run_keeps (P := fun n => n.limit = m.limit) (fun n k v hn => (n.limit_set k v).trans hn) (fun _ _ hn => hn)
    (fun _ hn => hn) rfl ops

theorem limit_step (m : Bounded τ) (op : BoundedOp κ ν) : (op.step m).2.limit = m.limit := limit_run m [op]

end BoundedOp

namespace Bounded

variable {τ κ ν : Type} [DecidableEq κ] [Table τ κ ν] [LawfulTable τ] {m : Bounded τ}

omit [DecidableEq κ] [LawfulTable τ] in
theorem limit_setAll (m : Bounded τ) (ks : List κ) (v : ν) : (m.setAll ks v).limit = m.limit :=
  BoundedOp.limit_step m (.setAll ks v)

theorem isFull_setAll (hfull : m.isFull = true) (ks : List κ) (v : ν) : (m.setAll ks v).isFull = true := by
  rw [isFull] at hfull ⊢
  rw [limit_setAll]
  cases hm : m.limit with
  | none => rw [hm] at hfull; exact hfull
  | some limit =>
      rw [hm, Option.any_some, decide_eq_true_iff] at hfull
      rw [Option.any_some, decide_eq_true_iff]
      exact Nat.le_trans hfull (m.size_le_setAll ks v)

/-- A batch drops a key only when the map is full, and so leaves a full map. -/
theorem isFull_of_dropped {ks : List κ} {v : ν} {a : κ} (ha : a ∈ ks) (hdropped : (m.setAll ks v).contains a = false) :
    (m.setAll ks v).isFull = true := by
  induction ks generalizing m with
  | nil => cases ha
  | cons k ks ih =>
      have hrest : m.setAll (k :: ks) v = (m.set k v).setAll ks v := rfl
      rw [hrest] at hdropped ⊢
      rcases List.mem_cons.1 ha with rfl | ha
      · have htakes : m.takes a = false := Bool.eq_false_iff.2 fun hkept => by
          have habsent := absent_of_setAll hdropped
          rw [(m.contains_set a v a).2 (.inr ⟨rfl, hkept⟩)] at habsent
          cases habsent
        rw [set_of_not_takes htakes]
        exact isFull_setAll (takes_eq_false_iff.1 htakes).2 ks v
      · exact ih ha hdropped

end Bounded

end ShardStore
