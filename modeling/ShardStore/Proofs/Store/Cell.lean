import ShardStore.Proofs.Table.Listing
import ShardStore.Store.Basic

/-!
# Operations on one hash

An operation on one hash sees of a store the value of that hash, its cell, and nothing else: the cell decides the answer
and the cell that is left, and the cells of all other hashes stay.
-/

namespace ShardStore

namespace MapOp

/-- The hash that an operation is about, unless it is about many. -/
def hash? : MapOp → Option Hash
  | .put h _ | .get h | .contains h | .set h _ | .setIfPresent h _ | .setIfAbsent h _ | .delete h => some h
  | .putAll .. | .size | .keys | .walk _ => none

/-- What an operation on one hash answers where the hash has the value `cell`, and the value that it leaves. -/
def onCell (op : MapOp) (cell : Option UInt64) : MapAnswer × Option UInt64 :=
  match op, cell with
  | .put h _, some old => (.outcome (.error (.present h.toText)), some old)
  | .put _ v, none => (.outcome (.ok ()), some v)
  | .contains _, cell => (.truth cell.isSome, cell)
  | .set _ v, some _ => (.outcome (.ok ()), some v)
  | .set h _, none => (.outcome (.error (.absent h.toText)), none)
  | .setIfPresent _ v, some _ => (.truth true, some v)
  | .setIfPresent _ _, none => (.truth false, none)
  | .setIfAbsent _ _, some old => (.truth false, some old)
  | .setIfAbsent _ v, none => (.truth true, some v)
  | .delete _, some _ => (.outcome (.ok ()), none)
  | .delete h, none => (.outcome (.error (.absent h.toText)), none)
  | _, cell => (.value cell, cell)

end MapOp

namespace Store

variable {τ τ' : Type} [Table τ Hash UInt64] [LawfulTable τ] [Table τ' Hash UInt64] [LawfulTable τ']

/-! ## What is in a store -/

theorem get?_withCapacity (hint : Nat) (h : Hash) : (withCapacity hint : Store τ).get? h = none :=
  LawfulTable.get?_withCapacity hint h

theorem contains_eq (s : Store τ) (h : Hash) : s.contains h = (s.get? h).isSome := LawfulTable.contains_eq s.table h

theorem contains_eq_false_iff {s : Store τ} {h : Hash} : s.contains h = false ↔ s.get? h = none := by
  rw [contains_eq, Option.isSome_eq_false_iff, Option.isNone_iff_eq_none]

theorem mem_toList_iff (s : Store τ) (h : Hash) (v : UInt64) : (h, v) ∈ s.toList ↔ s.get? h = some v :=
  LawfulTable.mem_toList s.table h v

theorem mem_keys_iff (s : Store τ) (h : Hash) : h ∈ s.keys ↔ (s.get? h).isSome = true := by
  rw [← contains_eq]
  exact Table.mem_keys_iff s.table h

theorem nodup_keys (s : Store τ) : s.keys.Nodup := LawfulTable.nodup_keys s.table

theorem nodup_toList (s : Store τ) : s.toList.Nodup := Table.nodup_toList s.table

theorem length_toList (s : Store τ) : s.toList.length = s.size := LawfulTable.length_toList s.table

theorem length_keys (s : Store τ) : s.keys.length = s.size := Table.length_keys s.table

omit [LawfulTable τ] in
theorem keys_eq (s : Store τ) : s.keys = s.toList.map Prod.fst := rfl

theorem toList_perm_of_get? {s : Store τ} {t : Store τ'} (hsame : ∀ h, s.get? h = t.get? h) :
    s.toList.Perm t.toList :=
  Table.toList_perm_of_get? hsame

theorem keys_perm_of_get? {s : Store τ} {t : Store τ'} (hsame : ∀ h, s.get? h = t.get? h) : s.keys.Perm t.keys :=
  (toList_perm_of_get? hsame).map Prod.fst

theorem size_eq_of_get? {s : Store τ} {t : Store τ'} (hsame : ∀ h, s.get? h = t.get? h) : s.size = t.size := by
  rw [← length_keys, ← length_keys, (keys_perm_of_get? hsame).length_eq]

/-! ## The operations one by one -/

omit [LawfulTable τ] in
theorem put_error {s : Store τ} {h : Hash} {v : UInt64} {e : StoreError} (herror : (s.put h v).1 = .error e) :
    e = .present h.toText := by
  rw [put] at herror
  split at herror <;> cases herror
  rfl

theorem put_of_present {s : Store τ} {h : Hash} {old : UInt64} (hget : s.get? h = some old) (v : UInt64) :
    s.put h v = (.error (.present h.toText), s) :=
  if_pos ((s.contains_eq h).trans (congrArg Option.isSome hget))

theorem put_of_absent {s : Store τ} {h : Hash} (hget : s.get? h = none) (v : UInt64) :
    s.put h v = (.ok (), ⟨(Table.insert s.table h v).2⟩) :=
  if_neg (Bool.eq_false_iff.1 ((s.contains_eq h).trans (congrArg Option.isSome hget)))

theorem get?_put (s : Store τ) (h : Hash) (v : UInt64) (k : Hash) :
    (s.put h v).2.get? k = if h = k then some ((s.get? h).getD v) else s.get? k := by
  cases hget : s.get? h with
  | none =>
      rw [put_of_absent hget]
      exact LawfulTable.get?_insert s.table h v k
  | some old =>
      rw [put_of_present hget]
      split
      · next hsame => rw [← hsame, hget]; rfl
      · rfl

theorem setIfPresent_fst (s : Store τ) (h : Hash) (v : UInt64) : (s.setIfPresent h v).1 = (s.get? h).isSome := by
  simp only [setIfPresent, LawfulTable.replace_fst, get?]

theorem get?_setIfPresent (s : Store τ) (h : Hash) (v : UInt64) (k : Hash) :
    (s.setIfPresent h v).2.get? k = if h = k then (s.get? h).map (fun _ => v) else s.get? k :=
  LawfulTable.get?_replace s.table h v k

omit [LawfulTable τ] in
theorem set_snd (s : Store τ) (h : Hash) (v : UInt64) : (s.set h v).2 = (s.setIfPresent h v).2 := by
  unfold set
  split <;> simp_all

theorem set_fst (s : Store τ) (h : Hash) (v : UInt64) :
    (s.set h v).1 = if (s.get? h).isSome then .ok () else .error (.absent h.toText) := by
  have hanswer := setIfPresent_fst s h v
  unfold set
  split <;> simp_all

theorem setIfAbsent_fst (s : Store τ) (h : Hash) (v : UInt64) : (s.setIfAbsent h v).1 = (s.get? h).isNone := by
  have hcontains := s.contains_eq h
  rw [contains] at hcontains
  unfold setIfAbsent
  split <;> simp_all

omit [LawfulTable τ] in
theorem setIfAbsent_snd (s : Store τ) (h : Hash) (v : UInt64) : (s.setIfAbsent h v).2 = (s.put h v).2 := by
  unfold setIfAbsent put
  split <;> rfl

theorem delete_fst (s : Store τ) (h : Hash) :
    (s.delete h).1 = if (s.get? h).isSome then .ok () else .error (.absent h.toText) := by
  have hold : (Table.remove s.table h).1 = s.get? h := LawfulTable.remove_fst s.table h
  rw [← hold]
  unfold delete
  split
  · next hremoved => simp [hremoved]
  · next hremoved => simp [hremoved]

theorem contains_of_delete {s : Store τ} {h : Hash} (hok : (s.delete h).1 = .ok ()) : s.contains h = true := by
  rw [delete_fst, ← contains_eq] at hok
  split at hok
  · next hpresent => exact hpresent
  · cases hok

omit [LawfulTable τ] in
theorem delete_snd (s : Store τ) (h : Hash) : (s.delete h).2 = ⟨(Table.remove s.table h).2⟩ := by
  unfold delete
  split
  · next hremoved => rw [hremoved]
  · next hremoved => rw [hremoved]

theorem get?_delete (s : Store τ) (h k : Hash) : (s.delete h).2.get? k = if h = k then none else s.get? k := by
  rw [delete_snd]
  exact LawfulTable.get?_remove s.table h k

/-! ## Any operation on one hash -/

variable {op : MapOp} {h : Hash}

/-- The cell of the hash decides the answer. -/
theorem step_fst (s : Store τ) (hsingle : op.hash? = some h) : (op.step s).1 = (op.onCell (s.get? h)).1 := by
  cases op <;> simp only [MapOp.hash?, Option.some.injEq, reduceCtorEq] at hsingle <;> subst hsingle
  case get => rfl
  case contains => exact congrArg MapAnswer.truth (s.contains_eq _)
  all_goals
    simp only [MapOp.step, TransactionMap.put, TransactionMap.set, TransactionMap.setIfPresent,
      TransactionMap.setIfAbsent, TransactionMap.delete]
  case put h v =>
    cases hget : s.get? h with
    | none => rw [put_of_absent hget]; rfl
    | some old => rw [put_of_present hget]; rfl
  case set => rw [set_fst]; cases s.get? _ <;> rfl
  case setIfPresent => rw [setIfPresent_fst]; cases s.get? _ <;> rfl
  case setIfAbsent => rw [setIfAbsent_fst]; cases s.get? _ <;> rfl
  case delete => rw [delete_fst]; cases s.get? _ <;> rfl

/-- The cell of the hash decides the cell that is left, and all other cells stay. -/
theorem get?_step (s : Store τ) (hsingle : op.hash? = some h) (k : Hash) :
    (op.step s).2.get? k = if h = k then (op.onCell (s.get? h)).2 else s.get? k := by
  cases op <;> simp only [MapOp.hash?, Option.some.injEq, reduceCtorEq] at hsingle <;> subst hsingle
  case get h | contains h =>
    simp only [MapOp.step, MapOp.onCell]
    split
    · next hsame => rw [hsame]
    · rfl
  all_goals
    simp only [MapOp.step, TransactionMap.put, TransactionMap.set, TransactionMap.setIfPresent,
      TransactionMap.setIfAbsent, TransactionMap.delete]
  case put => rw [get?_put]; cases s.get? _ <;> rfl
  case set => rw [set_snd, get?_setIfPresent]; cases s.get? _ <;> rfl
  case setIfPresent => rw [get?_setIfPresent]; cases s.get? _ <;> rfl
  case setIfAbsent => rw [setIfAbsent_snd, get?_put]; cases s.get? _ <;> rfl
  case delete h => rw [get?_delete]; cases s.get? h <;> rfl

end Store

end ShardStore
