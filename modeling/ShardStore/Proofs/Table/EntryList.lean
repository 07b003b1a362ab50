import ShardStore.Table.EntryList

/-!
# Lists of entries with other values

Where the values of a list of entries are exchanged for others, its operations find, put and take out at the same places. The
order of such a list goes by its keys alone.
-/

namespace ShardStore

variable {κ ν ν' : Type} [DecidableEq κ]

/-- The entries with other values. -/
def mapValues (f : ν → ν') (es : List (κ × ν)) : List (κ × ν') := es.map fun e => (e.1, f e.2)

omit [DecidableEq κ] in
theorem entryKeys_mapValues (f : ν → ν') (es : List (κ × ν)) : entryKeys (mapValues f es) = entryKeys es := by
  rw [entryKeys, mapValues, List.map_map]
  rfl

theorem findEntry_mapValues (f : ν → ν') (k : κ) (es : List (κ × ν)) :
    findEntry k (mapValues f es) = (findEntry k es).map f := by
  induction es with
  | nil => rfl
  | cons e es ih =>
      simp only [mapValues, List.map_cons, findEntry]
      split
      · rfl
      · exact ih

theorem insertEntry_mapValues (f : ν → ν') (k : κ) (v : ν) (es : List (κ × ν)) :
    insertEntry k (f v) (mapValues f es) = mapValues f (insertEntry k v es) := by
  induction es with
  | nil => rfl
  | cons e es ih =>
      simp only [mapValues, List.map_cons, insertEntry]
      split
      · rfl
      · exact congrArg (_ :: ·) ih

omit [DecidableEq κ] in
theorem lastToFront_mapValues (f : ν → ν') (es : List (κ × ν)) :
    lastToFront (mapValues f es) = mapValues f (lastToFront es) := by
  cases es with
  | nil => rfl
  | cons e es =>
      have hne : mapValues f (e :: es) ≠ [] := List.cons_ne_nil _ _
      change (mapValues f (e :: es)).getLast hne :: (mapValues f (e :: es)).dropLast = _
      simp only [mapValues, List.getLast_map, ← List.map_dropLast]
      rfl

theorem removeEntry_mapValues (f : ν → ν') (k : κ) (es : List (κ × ν)) :
    removeEntry k (mapValues f es) = mapValues f (removeEntry k es) := by
  induction es with
  | nil => rfl
  | cons e es ih =>
      simp only [mapValues, List.map_cons, removeEntry]
      split
      · exact lastToFront_mapValues f es
      · exact congrArg (_ :: ·) ih

/-- Putting an entry in its own place moves nothing. -/
theorem insertEntry_of_present {k : κ} {v : ν} {es : List (κ × ν)} (hfind : findEntry k es = some v) :
    insertEntry k v es = es := by
  induction es with
  | nil => cases hfind
  | cons e es ih =>
      simp only [findEntry] at hfind
      simp only [insertEntry]
      split
      · next he =>
          rw [if_pos he, Option.some_inj] at hfind
          rw [← he, ← hfind]
      · next he =>
          rw [if_neg he] at hfind
          rw [ih hfind]

end ShardStore
