import Mathlib.Data.Finmap
import ShardStore.Proofs.Table.Effect

/-!
# Runs of changes on a table

A lawful table stands for a finite map, and a run of changes makes of it what the same changes make of the map. In a list of
entries each change has its place as well: a new key goes to the end, what is overwritten stays where it is, and the last entry
moves to where a key is taken out. So the order is that of the first insertions, until something is taken out.
-/

namespace ShardStore

variable {τ κ ν : Type}

/-- A change of a table with its arguments. -/
inductive TableOp (κ ν : Type) where
  | insert (k : κ) (v : ν)
  | remove (k : κ)
  | replace (k : κ) (v : ν)

namespace TableOp

/-- The key that is changed. -/
def key : TableOp κ ν → κ
  | insert k _ | remove k | replace k _ => k

/-- The key that a change may bring in. -/
def inserted? : TableOp κ ν → Option κ
  | insert k _ => some k
  | remove _ | replace .. => none

/-- Makes one change, and answers the value that the key had. -/
def step [Table τ κ ν] (t : τ) : TableOp κ ν → Option ν × τ
  | insert k v => Table.insert t k v
  | remove k => Table.remove t k
  | replace k v => Table.replace t k v

/-- Makes changes in order. -/
def run [Table τ κ ν] (t : τ) (ops : List (TableOp κ ν)) : τ := ops.foldl (fun t op => (op.step t).2) t

theorem run_concat [Table τ κ ν] (t : τ) (ops : List (TableOp κ ν)) (op : TableOp κ ν) :
    run t (ops ++ [op]) = (op.step (run t ops)).2 :=
  List.foldl_concat ..

/-- What is there of the key after a change, where it was `cell` before. -/
def onCell (cell : Option ν) : TableOp κ ν → Option ν
  | insert _ v => some v
  | remove _ => none
  | replace _ v => cell.map fun _ => v

/-- The finite map after a change. -/
def onMap [DecidableEq κ] (m : Finmap fun _ : κ => ν) : TableOp κ ν → Finmap fun _ : κ => ν
  | insert k v => m.insert k v
  | remove k => m.erase k
  | replace k v => if k ∈ m then m.insert k v else m

/-- The entries after a change of a key that is not among them. -/
def ofAbsent (es : List (κ × ν)) : TableOp κ ν → List (κ × ν)
  | insert k v => es ++ [(k, v)]
  | remove _ | replace .. => es

/-- The entries after a change of the key at place `i`. Where it is taken out, the last entry comes there, and its own place is
given up. -/
def atPlace (es : List (κ × ν)) (i : Fin es.length) : TableOp κ ν → List (κ × ν)
  | insert k v | replace k v => es.set i (k, v)
  | remove _ => (es.set i (es.getLast (List.ne_nil_of_length_pos i.pos))).dropLast

/-- A change takes a list of entries to another, with every entry in its place. -/
structure Rearranges (op : TableOp κ ν) (es es' : List (κ × ν)) : Prop where
  absent : op.key ∉ entryKeys es → es' = op.ofAbsent es
  present : ∀ i : Fin es.length, (es.get i).1 = op.key → es' = op.atPlace es i

end TableOp

variable [DecidableEq κ]

/-! ## The map that a table stands for -/

namespace Table

variable [Table τ κ ν]

/-- What a table shows is the finite map `m`. -/
structure Shows (t : τ) (m : Finmap fun _ : κ => ν) : Prop where
  distinct : (keys t).Nodup
  get? : ∀ k, get? t k = m.lookup k
  contains : ∀ k, contains t k = true ↔ k ∈ m
  size : size t = m.keys.card
  isEmpty : isEmpty t = true ↔ m = ∅
  /-- Each entry of the map is listed, and that once. -/
  entries : (((toList t).map Prod.toSigma : List _) : Multiset (Σ _ : κ, ν)) = m.entries

variable [LawfulTable τ]

/-- The finite map that a table shows, whatever its order is. -/
def toFinmap (t : τ) : Finmap fun _ : κ => ν where
  entries := ((toList t).map Prod.toSigma : List _)
  nodupKeys := by
    have hkeys : (keys t).Nodup := LawfulTable.nodup_keys t
    rw [Multiset.coe_nodupKeys, List.NodupKeys, List.keys, List.map_map, Prod.fst_comp_toSigma]
    exact hkeys

theorem lookup_toFinmap (t : τ) (k : κ) : (toFinmap t).lookup k = get? t k := by
  refine Option.ext fun v => ?_
  rw [← LawfulTable.mem_toList, ← Option.mem_def, Finmap.mem_lookup_iff]
  exact List.mem_map_of_injective Prod.toSigma_injective (a := (k, v))

theorem mem_toFinmap_iff (t : τ) (k : κ) : k ∈ toFinmap t ↔ contains t k = true := by
  rw [← Finmap.lookup_isSome, lookup_toFinmap, LawfulTable.contains_eq]

theorem shows_toFinmap (t : τ) : Shows t (toFinmap t) where
  distinct := LawfulTable.nodup_keys t
  get? k := (lookup_toFinmap t k).symm
  contains k := (mem_toFinmap_iff t k).symm
  size := by
    rw [← LawfulTable.length_toList]
    simp [Finmap.keys, Multiset.keys, toFinmap, Finset.card]
  isEmpty := by
    rw [← Finmap.ext_iff', isEmpty, beq_iff_eq, ← LawfulTable.length_toList]
    change _ ↔ (((toList t).map Prod.toSigma : List _) : Multiset (Σ _ : κ, ν)) = 0
    simp
  entries := rfl

theorem toFinmap_withCapacity (hint : Nat) : toFinmap (withCapacity hint : τ) = ∅ :=
  Finmap.ext_lookup fun k => by rw [lookup_toFinmap, LawfulTable.get?_withCapacity, Finmap.lookup_empty]

end Table

namespace TableOp

theorem lookup_insert_eq (m : Finmap fun _ : κ => ν) (k : κ) (v : ν) (a : κ) :
    (m.insert k v).lookup a = if k = a then some v else m.lookup a := by
  split
  · next ha => rw [ha, Finmap.lookup_insert]
  · next ha => rw [Finmap.lookup_insert_of_ne m (Ne.symm ha)]

/-- A change of a map leaves a new cell of its key, and all other cells as they are. -/
theorem lookup_onMap (m : Finmap fun _ : κ => ν) (op : TableOp κ ν) (a : κ) :
    (op.onMap m).lookup a = if op.key = a then op.onCell (m.lookup op.key) else m.lookup a := by
  cases op with
  | insert k v => exact lookup_insert_eq m k v a
  | remove k =>
      change (m.erase k).lookup a = if k = a then none else m.lookup a
      split
      · next ha => rw [← ha, Finmap.lookup_erase]
      · next ha => rw [Finmap.lookup_erase_ne (Ne.symm ha)]
  | replace k v =>
      change (if k ∈ m then m.insert k v else m).lookup a = if k = a then (m.lookup k).map _ else m.lookup a
      by_cases hk : k ∈ m
      · obtain ⟨old, hold⟩ := Finmap.mem_iff.1 hk
        rw [if_pos hk, lookup_insert_eq, hold, Option.map_some]
      · rw [if_neg hk, Finmap.lookup_eq_none.2 hk, Option.map_none]
        split
        · next ha => rw [← ha, Finmap.lookup_eq_none.2 hk]
        · rfl

variable [Table τ κ ν] [LawfulTable τ]

theorem step_fst (t : τ) (op : TableOp κ ν) : (op.step t).1 = (Table.toFinmap t).lookup op.key := by
  rw [Table.lookup_toFinmap]
  cases op with
  | insert k v => exact LawfulTable.insert_fst t k v
  | remove k => exact LawfulTable.remove_fst t k
  | replace k v => exact LawfulTable.replace_fst t k v

theorem get?_step (t : τ) (op : TableOp κ ν) (a : κ) :
    Table.get? (op.step t).2 a = if op.key = a then op.onCell (Table.get? t op.key) else Table.get? t a := by
  cases op with
  | insert k v => exact LawfulTable.get?_insert t k v a
  | remove k => exact LawfulTable.get?_remove t k a
  | replace k v => exact LawfulTable.get?_replace t k v a

/-- A change of a table is that change of the map. -/
theorem toFinmap_step (t : τ) (op : TableOp κ ν) : Table.toFinmap (op.step t).2 = op.onMap (Table.toFinmap t) := by
  refine Finmap.ext_lookup fun a => ?_
  rw [Table.lookup_toFinmap, get?_step, lookup_onMap, Table.lookup_toFinmap, Table.lookup_toFinmap]

theorem toFinmap_run (t : τ) (ops : List (TableOp κ ν)) :
    Table.toFinmap (run t ops) = ops.foldl onMap (Table.toFinmap t) := by
  induction ops generalizing t with
  | nil => rfl
  | cons op ops ih =>
      rw [List.foldl_cons, ← toFinmap_step]
      exact ih (op.step t).2

end TableOp

/-! ## Places in a list of entries -/

section

variable {k : κ} {es : List (κ × ν)}

omit [DecidableEq κ] in
/-- What goes past entries with other keys works at the place of its own. -/
theorem exists_at_place {f : List (κ × ν) → List (κ × ν)} (hskip : ∀ e es, e.1 ≠ k → f (e :: es) = e :: f es)
    (hdistinct : (entryKeys es).Nodup) {i : Fin es.length} (hi : (es.get i).1 = k) (x : κ × ν) :
    ∃ front back, es = front ++ es.get i :: back ∧ f es = front ++ f (es.get i :: back) ∧
      es.set i x = front ++ x :: back := by
  obtain ⟨front, back, hsplit, -, hset⟩ : ∃ front back : List (κ × ν),
      es = front ++ es.get i :: back ∧ front.length = i ∧ es.set i x = front ++ x :: back :=
    List.exists_of_set i.isLt
  have hfront : ∀ e ∈ front, e.1 ≠ k := fun e he hsame => by
    rw [hsplit, entryKeys, List.map_append, List.nodup_append] at hdistinct
    exact hdistinct.2.2 e.1 (List.mem_map_of_mem he) _ (List.mem_cons_self ..) (hsame.trans hi.symm)
  exact ⟨front, back, hsplit, (congrArg f hsplit).trans (append_of_skips hskip hfront _), hset⟩

theorem insertEntry_at (hdistinct : (entryKeys es).Nodup) {i : Fin es.length} (hi : (es.get i).1 = k) (v : ν) :
    insertEntry k v es = es.set i (k, v) := by
  obtain ⟨front, back, -, hwork, hset⟩ :=
    exists_at_place (f := insertEntry k v) (fun _ _ he => if_neg he) hdistinct hi (k, v)
  rw [hwork, hset]
  exact congrArg (front ++ ·) (if_pos hi)

theorem overwriteEntry_at (hdistinct : (entryKeys es).Nodup) {i : Fin es.length} (hi : (es.get i).1 = k) (v : ν) :
    overwriteEntry k v es = es.set i (k, v) := by
  obtain ⟨front, back, -, hwork, hset⟩ :=
    exists_at_place (f := overwriteEntry k v) (fun _ _ he => if_neg he) hdistinct hi (k, v)
  rw [hwork, hset]
  exact congrArg (front ++ ·) (if_pos hi)

omit [DecidableEq κ] in
theorem lastToFront_eq (e : κ × ν) (es : List (κ × ν)) :
    lastToFront es = ((e :: es).getLast (List.cons_ne_nil e es) :: es).dropLast := by
  cases es with
  | nil | cons => rfl

theorem removeEntry_at (hdistinct : (entryKeys es).Nodup) {i : Fin es.length} (hi : (es.get i).1 = k) :
    removeEntry k es = (es.set i (es.getLast (List.ne_nil_of_length_pos i.pos))).dropLast := by
  obtain ⟨front, back, hsplit, hwork, hset⟩ :=
    exists_at_place (f := removeEntry k) (fun _ _ he => if_neg he) hdistinct hi (es.getLast _)
  have hlast : es.getLast (List.ne_nil_of_length_pos i.pos) = (es.get i :: back).getLast (List.cons_ne_nil _ _) :=
    (List.getLast_congr _ (by simp) hsplit).trans (List.getLast_append_of_ne_nil _ (List.cons_ne_nil _ _))
  have hgap : removeEntry k (es.get i :: back) = lastToFront back := if_pos hi
  rw [hwork, hset, hgap, List.dropLast_append_of_ne_nil (List.cons_ne_nil _ _), lastToFront_eq (es.get i), hlast]

end

namespace EntryList

theorem rearranges_step (t : EntryList κ ν) (op : TableOp κ ν) :
    op.Rearranges (Table.toList t) (Table.toList (op.step t).2) where
  absent habsent := by
    have hfind : findEntry op.key t.entries = none := (findEntry_eq_none_iff ..).2 habsent
    cases op with
    | insert k v => exact insertEntry_of_absent hfind v
    | remove k => exact removeEntry_of_absent hfind
    | replace k v => exact overwriteEntry_of_absent hfind v
  present i hi := by
    cases op with
    | insert k v => exact insertEntry_at t.distinct hi v
    | remove k => exact removeEntry_at t.distinct hi
    | replace k v => exact overwriteEntry_at t.distinct hi v

/-- As long as nothing is taken out, the keys stand in the order in which they were inserted first. -/
theorem keys_run (hint : Nat) {ops : List (TableOp κ ν)} (hkept : ∀ op ∈ ops, ∀ k, op ≠ .remove k) :
    Table.keys (TableOp.run (Table.withCapacity hint : EntryList κ ν) ops) =
      (ops.filterMap TableOp.inserted?).eraseDups := by
  -- from the end: whether the last key is new depends on all keys before it
  induction ops using List.reverseRecOn with
  | nil => rfl
  | append_singleton ops op ih =>
      obtain ⟨hbefore, hlast⟩ := List.forall_mem_append.1 hkept
      have hlast : ∀ k, op ≠ .remove k := hlast op (List.mem_singleton_self op)
      have ih := ih hbefore
      rw [TableOp.run_concat, List.filterMap_append]
      generalize TableOp.run (Table.withCapacity hint : EntryList κ ν) ops = t at ih
      cases op with
      | insert k v =>
          have hkeys : Table.keys (Table.insert t k v).2 = if k ∈ Table.keys t then Table.keys t else Table.keys t ++ [k] :=
            entryKeys_insertEntry k v t.entries
          change Table.keys (Table.insert t k v).2 = (_ ++ [k]).eraseDups
          simp only [hkeys, ih, List.mem_eraseDups, eraseDups_concat]
      | remove k => exact absurd rfl (hlast k)
      | replace k v =>
          have hkeys : Table.keys (Table.replace t k v).2 = Table.keys t := entryKeys_overwriteEntry k v t.entries
          change Table.keys (Table.replace t k v).2 = (_ ++ []).eraseDups
          rw [hkeys, ih, List.append_nil]

/-- Any changes of a fresh list of entries, and then one more. The list shows the finite map that the changes have made, and the
next change answers what that map has of its key, moves entries only to fill a gap, and writes no value but that of its key. As
long as nothing is taken out, the order is that of the first insertions. -/
theorem shows_map_in_order (hint : Nat) (ops : List (TableOp κ ν)) :
    let t : EntryList κ ν := TableOp.run (Table.withCapacity hint) ops
    let m : Finmap fun _ : κ => ν := ops.foldl TableOp.onMap ∅
    Table.Shows t m ∧
    (∀ op : TableOp κ ν,
      (op.step t).1 = m.lookup op.key ∧ op.Rearranges (Table.toList t) (Table.toList (op.step t).2) ∧
      ∀ a, a ≠ op.key → Table.get? (op.step t).2 a = Table.get? t a) ∧
    (∀ k v, Table.get? (Table.replace t k v).2 k = (m.lookup k).map fun _ => v) ∧
    ((∀ op ∈ ops, ∀ k, op ≠ .remove k) → Table.keys t = (ops.filterMap TableOp.inserted?).eraseDups) := by
  intro t m
  have hmap : Table.toFinmap t = m := by
    rw [TableOp.toFinmap_run, Table.toFinmap_withCapacity]
  refine ⟨hmap ▸ Table.shows_toFinmap t, fun op => ⟨?_, t.rearranges_step op, fun a ha => ?_⟩, fun k v => ?_, keys_run hint⟩
  · rw [← hmap, TableOp.step_fst]
  · rw [TableOp.get?_step, if_neg ha.symm]
  · rw [← hmap, Table.lookup_toFinmap, LawfulTable.get?_replace, if_pos rfl]

/-- Three keys, two of them written twice. Where the first is taken out the last one comes, and where the last is taken out
nothing does. -/
theorem last_fills_gap :
    let ops : List (TableOp Char Nat) := [.insert 'a' 1, .insert 'b' 2, .insert 'a' 3, .insert 'c' 4, .replace 'b' 5]
    let t : EntryList Char Nat := TableOp.run (Table.withCapacity 0) ops
    (∀ op ∈ ops, ∀ k, op ≠ .remove k) ∧ Table.keys t = ['a', 'b', 'c'] ∧
      Table.toList (Table.remove t 'a').2 = [('c', 4), ('b', 5)] ∧
      Table.toList (Table.remove t 'c').2 = [('a', 3), ('b', 5)] ∧
      Table.toList (Table.insert t 'd' 6).2 = [('a', 3), ('b', 5), ('c', 4), ('d', 6)] := by
  intro ops t
  have hkept : ∀ op ∈ ops, ∀ k, op ≠ .remove k := by simp [ops]
  obtain ⟨-, hstep, -, horder⟩ := shows_map_in_order 0 ops
  refine ⟨hkept, horder hkept, ?_, ?_, ?_⟩
  · exact (hstep (.remove 'a')).2.1.present ⟨0, by decide⟩ rfl
  · exact (hstep (.remove 'c')).2.1.present ⟨2, by decide⟩ rfl
  · exact (hstep (.insert 'd' 6)).2.1.absent (by decide)

end EntryList
end ShardStore
