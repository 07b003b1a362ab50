import ShardStore.Table.EntryList
import ShardStore.Table.SlotTable

/-!
# Lawful tables

What makes a table a finite map: its operations answer and change what the look-up says, and its list shows each key once
with the value that the look-up gives. The tables of this library are lawful, so what follows from these laws holds of a
store over any of them.
-/

namespace ShardStore

/-- The laws of a finite map. The order of the list is free. -/
class LawfulTable (τ : Type) {κ ν : Type} [DecidableEq κ] [Table τ κ ν] : Prop where
  get?_withCapacity (hint : Nat) (k : κ) : Table.get? (Table.withCapacity hint : τ) k = none
  contains_eq (t : τ) (k : κ) : Table.contains t k = (Table.get? t k).isSome
  insert_fst (t : τ) (k : κ) (v : ν) : (Table.insert t k v).1 = Table.get? t k
  get?_insert (t : τ) (k : κ) (v : ν) (a : κ) :
    Table.get? (Table.insert t k v).2 a = if k = a then some v else Table.get? t a
  remove_fst (t : τ) (k : κ) : (Table.remove t k).1 = Table.get? t k
  get?_remove (t : τ) (k a : κ) :
    Table.get? (Table.remove t k).2 a = if k = a then none else Table.get? t a
  replace_fst (t : τ) (k : κ) (v : ν) : (Table.replace t k v).1 = Table.get? t k
  get?_replace (t : τ) (k : κ) (v : ν) (a : κ) :
    Table.get? (Table.replace t k v).2 a =
      if k = a then (Table.get? t k).map (fun _ => v) else Table.get? t a
  mem_toList (t : τ) (k : κ) (v : ν) : (k, v) ∈ Table.toList t ↔ Table.get? t k = some v
  nodup_keys (t : τ) : (Table.keys t).Nodup
  length_toList (t : τ) : (Table.toList t).length = Table.size t

/-! ## Lists of entries -/

variable {κ ν : Type} [DecidableEq κ]

theorem findEntry_overwriteEntry (k : κ) (v : ν) (a : κ) (es : List (κ × ν)) :
    findEntry a (overwriteEntry k v es) =
      if k = a then (findEntry k es).map (fun _ => v) else findEntry a es := by
  induction es with
  | nil => simp [overwriteEntry, findEntry]
  | cons e es ih =>
    by_cases he : e.1 = k
    · subst he
      by_cases ha : e.1 = a <;> simp [overwriteEntry, findEntry, ha]
    · by_cases ha : k = a
      · subst ha
        simpa [overwriteEntry, findEntry, he] using ih
      · simp only [overwriteEntry, he, if_false, findEntry, ih, ha]

theorem findEntry_insertEntry (k : κ) (v : ν) (a : κ) (es : List (κ × ν)) :
    findEntry a (insertEntry k v es) = if k = a then some v else findEntry a es := by
  induction es with
  | nil => simp [insertEntry, findEntry]
  | cons e es ih =>
    by_cases he : e.1 = k
    · subst he
      by_cases ha : e.1 = a <;> simp [insertEntry, findEntry, ha]
    · by_cases ha : k = a
      · subst ha
        simpa [insertEntry, findEntry, he] using ih
      · simp only [insertEntry, he, if_false, findEntry, ih, ha]

/-- Where keys are distinct, an entry is in the list just if its key is found with its value. -/
theorem mem_iff_findEntry {es : List (κ × ν)} (h : (entryKeys es).Nodup) (k : κ) (v : ν) :
    (k, v) ∈ es ↔ findEntry k es = some v := by
  induction es with
  | nil => simp [findEntry]
  | cons e es ih =>
    obtain ⟨absent, rest⟩ := List.nodup_cons.1 h
    by_cases he : e.1 = k
    · subst he
      have notIn : (e.1, v) ∉ es := fun found => absent (List.mem_map.2 ⟨_, found, rfl⟩)
      simp only [List.mem_cons, notIn, or_false, findEntry, if_true, Option.some.injEq]
      exact ⟨fun eq => by rw [← eq], fun eq => by rw [← eq]⟩
    · have different : (k, v) ≠ e := fun eq => he (by rw [← eq])
      simpa [findEntry, he, different] using ih rest

theorem findEntry_eq_none_iff (k : κ) (es : List (κ × ν)) : findEntry k es = none ↔ k ∉ entryKeys es := by
  induction es with
  | nil => simp [findEntry, entryKeys]
  | cons e es ih =>
    by_cases he : e.1 = k
    · simp [findEntry, entryKeys, he]
    · have different : k ≠ e.1 := fun eq => he eq.symm
      simpa [findEntry, entryKeys, he, different] using ih

/-- Lists with the same entries find the same values, provided that their keys are distinct. -/
theorem findEntry_perm {es es' : List (κ × ν)} (p : es.Perm es') (h : (entryKeys es).Nodup) (k : κ) :
    findEntry k es = findEntry k es' := by
  have h' : (entryKeys es').Nodup := (p.map Prod.fst).nodup_iff.1 h
  exact Option.ext fun v => by rw [← mem_iff_findEntry h, ← mem_iff_findEntry h', p.mem_iff]

theorem findEntry_eraseP (k a : κ) {es : List (κ × ν)} (h : (entryKeys es).Nodup) :
    findEntry a (es.eraseP fun e => e.1 = k) = if k = a then none else findEntry a es := by
  induction es with
  | nil => simp [findEntry]
  | cons e es ih =>
    obtain ⟨absent, rest⟩ := List.nodup_cons.1 h
    by_cases he : e.1 = k
    · subst he
      by_cases ha : e.1 = a
      · subst ha
        simpa using (findEntry_eq_none_iff _ _).2 absent
      · simp [findEntry, ha]
    · by_cases ha : k = a
      · subst ha
        simpa [findEntry, he] using ih rest
      · simpa [he, findEntry, ha] using congrArg (fun o => if e.1 = a then some e.2 else o) (ih rest)

theorem findEntry_removeEntry (k a : κ) {es : List (κ × ν)} (h : (entryKeys es).Nodup) :
    findEntry a (removeEntry k es) = if k = a then none else findEntry a es := by
  rw [findEntry_perm (removeEntry_perm k es) (nodup_removeEntry h k), findEntry_eraseP k a h]

instance : LawfulTable (EntryList κ ν) where
  get?_withCapacity _ _ := rfl
  contains_eq _ _ := rfl
  insert_fst _ _ _ := rfl
  get?_insert t k v a := findEntry_insertEntry k v a t.entries
  remove_fst _ _ := rfl
  get?_remove t k a := findEntry_removeEntry k a t.distinct
  replace_fst _ _ _ := rfl
  get?_replace t k v a := findEntry_overwriteEntry k v a t.entries
  mem_toList t k v := mem_iff_findEntry t.distinct k v
  nodup_keys t := t.distinct
  length_toList _ := rfl

/-! ## Hash tables -/

instance [Hashable κ] : LawfulTable (Std.HashMap κ ν) where
  get?_withCapacity _ _ := Std.HashMap.getElem?_emptyWithCapacity
  contains_eq _ _ := Std.HashMap.contains_eq_isSome_getElem?
  insert_fst _ _ _ := rfl
  get?_insert t k v a := by
    simpa [Table.insert, Table.get?] using Std.HashMap.getElem?_insert (m := t) (k := k) (a := a) (v := v)
  remove_fst _ _ := rfl
  get?_remove t k a := by
    simpa [Table.remove, Table.get?] using Std.HashMap.getElem?_erase (m := t) (k := k) (a := a)
  replace_fst t k v := by
    simp only [Table.replace, Table.get?]
    cases h : t[k]? <;> rfl
  get?_replace t k v a := by
    simp only [Table.replace, Table.get?]
    cases h : t[k]? with
    | none =>
      by_cases ha : k = a
      · subst ha
        simpa using h
      · simp [ha]
    | some old => simpa using Std.HashMap.getElem?_insert (m := t) (k := k) (a := a) (v := v)
  mem_toList t k v := Std.HashMap.mem_toList_iff_getElem?_eq_some
  nodup_keys t := by
    have h := Std.HashMap.nodup_keys (m := t)
    rwa [← Std.HashMap.map_fst_toList_eq_keys] at h
  length_toList t := Std.HashMap.length_toList

/-! ## Hash tables in the order of their slots -/

/-- The order of the slots shows the same entries as any other. -/
theorem SlotTable.toList_perm [Hashable κ] (t : SlotTable κ ν) : (Table.toList t).Perm (Table.toList t.entries) :=
  List.mergeSort_perm _ _

instance [Hashable κ] : LawfulTable (SlotTable κ ν) where
  get?_withCapacity hint k := LawfulTable.get?_withCapacity (τ := Std.HashMap κ ν) hint k
  contains_eq t k := LawfulTable.contains_eq t.entries k
  insert_fst _ _ _ := rfl
  get?_insert t k v a := LawfulTable.get?_insert t.entries k v a
  remove_fst _ _ := rfl
  get?_remove t k a := LawfulTable.get?_remove t.entries k a
  replace_fst t k v := LawfulTable.replace_fst t.entries k v
  get?_replace t k v a := LawfulTable.get?_replace t.entries k v a
  mem_toList t k v := t.toList_perm.mem_iff.trans (LawfulTable.mem_toList t.entries k v)
  nodup_keys t := (t.toList_perm.map Prod.fst).nodup_iff.2 (LawfulTable.nodup_keys t.entries)
  length_toList t := t.toList_perm.length_eq.trans (LawfulTable.length_toList t.entries)

end ShardStore
