import ShardStore.Table.Basic

/-!
# Lists of entries

A table that keeps its entries in a list and finds a key by looking at each. Its order is exact: a new key goes to the
end, an overwritten one keeps its place, and where a key is taken out the last entry moves into the gap. The keys stay
distinct under all three.
-/

namespace ShardStore

variable {κ ν : Type}

/-- The keys of a list of entries, in order. -/
def entryKeys (es : List (κ × ν)) : List κ := es.map Prod.fst

variable [DecidableEq κ]

/-! ## The operations on lists -/

/-- The value of the first entry with a key. -/
def findEntry (k : κ) : List (κ × ν) → Option ν
  | [] => none
  | e :: es => if e.1 = k then some e.2 else findEntry k es

/-- Overwrites the first entry with a key, and changes nothing if there is none. -/
def overwriteEntry (k : κ) (v : ν) : List (κ × ν) → List (κ × ν)
  | [] => []
  | e :: es => if e.1 = k then (k, v) :: es else e :: overwriteEntry k v es

/-- Overwrites the first entry with a key, or adds one at the end. -/
def insertEntry (k : κ) (v : ν) : List (κ × ν) → List (κ × ν)
  | [] => [(k, v)]
  | e :: es => if e.1 = k then (k, v) :: es else e :: insertEntry k v es

/-- Puts the last of some entries in front of the others. -/
def lastToFront : List (κ × ν) → List (κ × ν)
  | [] => []
  | e :: es => (e :: es).getLast (by simp) :: (e :: es).dropLast

/-- Takes out the first entry with a key; the last entry moves into the gap. -/
def removeEntry (k : κ) : List (κ × ν) → List (κ × ν)
  | [] => []
  | e :: es => if e.1 = k then lastToFront es else e :: removeEntry k es

/-! ## The keys stay distinct -/

theorem entryKeys_overwriteEntry (k : κ) (v : ν) (es : List (κ × ν)) :
    entryKeys (overwriteEntry k v es) = entryKeys es := by
  induction es with
  | nil => rfl
  | cons e es ih =>
    by_cases h : e.1 = k
    · simp [overwriteEntry, entryKeys, h]
    · simpa [overwriteEntry, entryKeys, h] using ih

theorem entryKeys_insertEntry (k : κ) (v : ν) (es : List (κ × ν)) :
    entryKeys (insertEntry k v es) =
      if k ∈ entryKeys es then entryKeys es else entryKeys es ++ [k] := by
  induction es with
  | nil => simp [insertEntry, entryKeys]
  | cons e es ih =>
    by_cases h : e.1 = k
    · simp [insertEntry, entryKeys, h]
    · have h' : ¬k = e.1 := fun eq => h eq.symm
      simp only [entryKeys] at ih
      simp only [insertEntry, entryKeys, h, if_false, List.map_cons, ih, List.mem_cons, h', false_or]
      split <;> simp_all

omit [DecidableEq κ] in
theorem lastToFront_perm (es : List (κ × ν)) : (lastToFront es).Perm es := by
  cases es with
  | nil => exact .nil
  | cons e es =>
    have joined := List.dropLast_concat_getLast (List.cons_ne_nil e es)
    exact (List.perm_append_singleton _ _).symm.trans (.of_eq joined)

theorem removeEntry_perm (k : κ) (es : List (κ × ν)) :
    (removeEntry k es).Perm (es.eraseP fun e => e.1 = k) := by
  induction es with
  | nil => exact .nil
  | cons e es ih =>
    by_cases h : e.1 = k
    · simpa [removeEntry, h] using lastToFront_perm es
    · simpa [removeEntry, h] using ih.cons e

theorem nodup_insertEntry {es : List (κ × ν)} (h : (entryKeys es).Nodup) (k : κ) (v : ν) :
    (entryKeys (insertEntry k v es)).Nodup := by
  rw [entryKeys_insertEntry]
  split
  · exact h
  · next absent => exact List.nodup_append.2 ⟨h, by simp, by grind⟩

theorem nodup_removeEntry {es : List (κ × ν)} (h : (entryKeys es).Nodup) (k : κ) :
    (entryKeys (removeEntry k es)).Nodup :=
  ((removeEntry_perm k es).map Prod.fst).nodup_iff.2 (h.sublist (List.eraseP_sublist.map Prod.fst))

/-! ## The table -/

/-- A table kept as a list of entries with distinct keys. -/
structure EntryList (κ ν : Type) where
  /-- The entries in their order. -/
  entries : List (κ × ν)
  distinct : (entryKeys entries).Nodup := by exact List.nodup_nil

instance : Table (EntryList κ ν) κ ν where
  withCapacity _ := { entries := [] }
  get? t k := findEntry k t.entries
  insert t k v := (findEntry k t.entries, ⟨insertEntry k v t.entries, nodup_insertEntry t.distinct k v⟩)
  remove t k := (findEntry k t.entries, ⟨removeEntry k t.entries, nodup_removeEntry t.distinct k⟩)
  replace t k v :=
    (findEntry k t.entries,
      ⟨overwriteEntry k v t.entries, (entryKeys_overwriteEntry k v t.entries).symm ▸ t.distinct⟩)
  size t := t.entries.length
  toList t := t.entries

/-- The entries are in a block one after the other. -/
instance [ByteSize κ] [ByteSize ν] : Footprint (EntryList κ ν) where
  bytes := 24
  room hint := hint * entryBytes κ ν
  fault := .array

end ShardStore
