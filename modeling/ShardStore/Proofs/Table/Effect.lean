import ShardStore.Proofs.Table.Listing

/-!
# Effects on one key

What an operation on one key is to do to a table: add the key, give it another value, or take it out. Each has a precondition
on what is there of the key before. Where it fails, the operation is refused and leaves everything as it was.
-/

namespace ShardStore

variable {κ ν : Type}

/-- What is to happen to a key. -/
inductive Effect (κ ν : Type) where
  | add (k : κ) (v : ν)
  | change (k : κ) (v : ν)
  | drop (k : κ)

namespace Effect

/-- The key that something is to happen to. -/
def key : Effect κ ν → κ
  | add k _ | change k _ | drop k => k

/-- What is there of the key afterwards. -/
def left : Effect κ ν → Option ν
  | add _ v | change _ v => some v
  | drop _ => none

/-- The precondition, where `cell` is there of the key: what is added is absent, what is changed or taken out is present. -/
def Allowed (cell : Option ν) : Effect κ ν → Prop
  | add .. => cell = none
  | change .. | drop _ => cell ≠ none

/-- What becomes of the keys. -/
def OnKeys (before after : List κ) : Effect κ ν → Prop
  | add k _ => after.Perm (k :: before)
  | change .. => after.Perm before
  | drop k => before.Perm (k :: after)

/-- What becomes of the number of entries. -/
def OnSize (before after : Nat) : Effect κ ν → Prop
  | add .. => after = before + 1
  | change .. => after = before
  | drop _ => before = after + 1

variable {e : Effect κ ν} {before after : List κ}

theorem OnKeys.onSize (h : e.OnKeys before after) : e.OnSize before.length after.length := by
  cases e with
  | add | change => exact h.length_eq
  | drop => exact h.length_eq

theorem OnKeys.append_right (h : e.OnKeys before after) (rest : List κ) : e.OnKeys (before ++ rest) (after ++ rest) := by
  cases e with
  | add | change => exact List.Perm.append_right rest h
  | drop => exact List.Perm.append_right rest h

theorem OnKeys.of_perm {before' after' : List κ} (h : e.OnKeys before after) (hbefore : before'.Perm before)
    (hafter : after'.Perm after) : e.OnKeys before' after' := by
  cases e with
  | add k => exact (hafter.trans h).trans (hbefore.symm.cons k)
  | change => exact (hafter.trans h).trans hbefore.symm
  | drop k => exact (hbefore.trans h).trans (hafter.symm.cons k)

end Effect

/-- The effect `e` on a container takes it from `m` to `m'`, or is refused. It is refused just if its key cannot be placed or
its precondition fails in the table that the key goes to, of which `look` shows the entries. A refusal changes nothing; else
nothing changes but the entry of the key. -/
structure AllOrNothing {μ : Type} (e : Effect κ ν) (look : μ → κ → Option ν) (keys : μ → List κ) (size : μ → Nat)
    (placed refused : Prop) (m m' : μ) : Prop where
  refused_iff : refused ↔ ¬(placed ∧ e.Allowed (look m e.key))
  unchanged : refused → m' = m
  look_key : ¬refused → look m' e.key = e.left
  look_other : ¬refused → ∀ k, e.key ≠ k → look m' k = look m k
  keys : ¬refused → e.OnKeys (keys m) (keys m')
  size : ¬refused → e.OnSize (size m) (size m')

/-- What is done to a part of a container, or refused there, is done to the whole or refused, where all else stays. -/
theorem AllOrNothing.of_part {π μ : Type} {look : π → κ → Option ν} {keysOf : π → List κ} {sizeOf : π → Nat}
    {keys : μ → List κ} {size : μ → Nat} {e : Effect κ ν} {placed refused : Prop} {m m' : μ} {p p' : π} {rest : List κ}
    (part : μ → Option π) (hpart : part m = some p) (hpart' : part m' = some p') (hplaced : placed)
    (hsame : p' = p → m' = m) (hkeys : (keys m).Perm (keysOf p ++ rest)) (hkeys' : (keys m').Perm (keysOf p' ++ rest))
    (hsize : ∀ n, size n = (keys n).length) (h : AllOrNothing e look keysOf sizeOf True refused p p') :
    AllOrNothing e (fun n k => (part n).bind (look · k)) keys size placed refused m m' := by
  have hwhole : ¬refused → e.OnKeys (keys m) (keys m') := fun hdone =>
    ((h.keys hdone).append_right rest).of_perm hkeys hkeys'
  constructor
  · rw [h.refused_iff, hpart, Option.bind_some]
    simp only [hplaced, true_and]
  · exact fun hrefused => hsame (h.unchanged hrefused)
  · intro hdone
    rw [hpart', Option.bind_some, h.look_key hdone]
  · intro hdone k hk
    rw [hpart', hpart, Option.bind_some, Option.bind_some, h.look_other hdone k hk]
  · exact hwhole
  · intro hdone
    rw [hsize, hsize]
    exact (hwhole hdone).onSize

variable [DecidableEq κ]

/-! ## What tables list -/

namespace Table

variable {τ τ' : Type} [Table τ κ ν] [LawfulTable τ] [Table τ' κ ν] [LawfulTable τ']

theorem onKeys_of_get? {t : τ} {t' : τ'} {e : Effect κ ν} (hallowed : e.Allowed (get? t e.key))
    (hget : ∀ k, get? t' k = if e.key = k then e.left else get? t k) : e.OnKeys (keys t) (keys t') := by
  cases e with
  | add k v => exact (toList_perm_cons hallowed hget).map Prod.fst
  | change k v =>
      refine keys_perm_of_contains fun a => ?_
      rw [LawfulTable.contains_eq, LawfulTable.contains_eq, hget]
      split
      · next ha =>
          obtain ⟨old, hold⟩ := Option.ne_none_iff_exists'.1 hallowed
          rw [← ha, hold]
          rfl
      · rfl
  | drop k =>
      obtain ⟨old, hold⟩ := Option.ne_none_iff_exists'.1 hallowed
      have hleft : ∀ a, get? t' a = if k = a then none else get? t a := hget
      have hgone : get? t' k = none := (hleft k).trans (if_pos rfl)
      have hback : ∀ a, get? t a = if k = a then some old else get? t' a := fun a => by
        rw [hleft]
        by_cases ha : k = a
        · rw [if_pos ha, ← ha]
          exact hold
        · rw [if_neg ha, if_neg ha]
      exact (toList_perm_cons hgone hback).map Prod.fst

end Table

/-- A container with one table does nothing but work on that. -/
theorem AllOrNothing.of_table {τ μ : Type} [Table τ κ ν] [LawfulTable τ] (table : μ → τ) {e : Effect κ ν} {refused : Prop}
    {m m' : μ} (hrefused : refused ↔ ¬e.Allowed (Table.get? (table m) e.key))
    (hsame : ¬e.Allowed (Table.get? (table m) e.key) → m' = m)
    (hget : e.Allowed (Table.get? (table m) e.key) → ∀ k,
      Table.get? (table m') k = if e.key = k then e.left else Table.get? (table m) k) :
    AllOrNothing e (fun m => Table.get? (table m)) (fun m => Table.keys (table m)) (fun m => Table.size (table m)) True
      refused m m' := by
  have hallowed : ¬refused → e.Allowed (Table.get? (table m) e.key) := fun hdone =>
    Classical.not_not.1 fun hnot => hdone (hrefused.2 hnot)
  have hkeys : ¬refused → e.OnKeys (Table.keys (table m)) (Table.keys (table m')) := fun hdone =>
    Table.onKeys_of_get? (hallowed hdone) (hget (hallowed hdone))
  constructor
  · rw [true_and]
    exact hrefused
  · exact fun hno => hsame (hrefused.1 hno)
  · exact fun hdone => (hget (hallowed hdone) e.key).trans (if_pos rfl)
  · exact fun hdone k hk => (hget (hallowed hdone) k).trans (if_neg hk)
  · exact hkeys
  · intro hdone
    rw [← Table.length_keys, ← Table.length_keys]
    exact (hkeys hdone).onSize

/-! ## What is absent is left alone -/

/-- Overwriting or taking out a key that is absent leaves the table exactly as it was, in the same order. -/
class SteadyTable (τ : Type) {κ ν : Type} [DecidableEq κ] [Table τ κ ν] : Prop where
  replace_of_absent (t : τ) (k : κ) (v : ν) : Table.get? t k = none → (Table.replace t k v).2 = t
  remove_of_absent (t : τ) (k : κ) : Table.get? t k = none → (Table.remove t k).2 = t

theorem overwriteEntry_of_absent {k : κ} {es : List (κ × ν)} (habsent : findEntry k es = none) (v : ν) :
    overwriteEntry k v es = es := by
  induction es with
  | nil => rfl
  | cons e es ih =>
      by_cases he : e.1 = k
      · simp [findEntry, he] at habsent
      · simp only [findEntry, he, if_false] at habsent
        simp only [overwriteEntry, he, if_false, ih habsent]

theorem removeEntry_of_absent {k : κ} {es : List (κ × ν)} (habsent : findEntry k es = none) : removeEntry k es = es := by
  induction es with
  | nil => rfl
  | cons e es ih =>
      by_cases he : e.1 = k
      · simp [findEntry, he] at habsent
      · simp only [findEntry, he, if_false] at habsent
        simp only [removeEntry, he, if_false, ih habsent]

instance : SteadyTable (EntryList κ ν) where
  replace_of_absent t k v habsent := by
    obtain ⟨es, hdistinct⟩ := t
    have hsame : overwriteEntry k v es = es := overwriteEntry_of_absent habsent v
    simp only [Table.replace, hsame]
  remove_of_absent t k habsent := by
    obtain ⟨es, hdistinct⟩ := t
    have hsame : removeEntry k es = es := removeEntry_of_absent habsent
    simp only [Table.remove, hsame]

/-- The chain of an absent key is not touched, nor is the count. -/
theorem erase_of_absent [Hashable κ] (t : Std.HashMap κ ν) {k : κ} (habsent : t[k]? = none) : t.erase k = t := by
  have hcontains : t.contains k = false := by
    rw [Std.HashMap.contains_eq_isSome_getElem?, habsent, Option.isSome_none]
  obtain ⟨⟨⟨size, buckets⟩, wf⟩⟩ := t
  simp only [Std.HashMap.contains, Std.DHashMap.contains, Std.DHashMap.Internal.Raw₀.contains] at hcontains
  simp only [Std.HashMap.erase, Std.DHashMap.erase, Std.DHashMap.Internal.Raw₀.erase, hcontains, Bool.false_eq_true,
    if_false]

instance [Hashable κ] : SteadyTable (Std.HashMap κ ν) where
  replace_of_absent t k v habsent := by
    have hget : t[k]? = none := habsent
    simp only [Table.replace, hget]
  remove_of_absent t k habsent := erase_of_absent t habsent

/-! ## What is new goes to the end -/

/-- A new key goes to the end of the list. -/
class AppendingTable (τ : Type) {κ ν : Type} [Table τ κ ν] : Prop where
  toList_insert (t : τ) (k : κ) (v : ν) :
    Table.get? t k = none → Table.toList (Table.insert t k v).2 = Table.toList t ++ [(k, v)]

theorem insertEntry_of_absent {k : κ} {es : List (κ × ν)} (habsent : findEntry k es = none) (v : ν) :
    insertEntry k v es = es ++ [(k, v)] := by
  induction es with
  | nil => rfl
  | cons e es ih =>
      by_cases he : e.1 = k
      · simp [findEntry, he] at habsent
      · simp only [findEntry, he, if_false] at habsent
        simp only [insertEntry, he, if_false, ih habsent, List.cons_append]

instance : AppendingTable (EntryList κ ν) where
  toList_insert t k v habsent := by
    obtain ⟨es, hdistinct⟩ := t
    have hlast : insertEntry k v es = es ++ [(k, v)] := insertEntry_of_absent habsent v
    simp only [Table.insert, Table.toList, hlast]

/-! ## What stands in front stays -/

/-- A new key goes to the end, and where a key is taken out, nothing moves that stands before it. A table is known by its list. -/
class FrontKeepingTable (τ : Type) {κ ν : Type} [Table τ κ ν] : Prop extends AppendingTable τ where
  toList_remove (t : τ) (k : κ) (front back : List (κ × ν)) : Table.toList t = front ++ back → (∀ e ∈ front, e.1 ≠ k) →
    ∃ back', Table.toList (Table.remove t k).2 = front ++ back'
  ext (t t' : τ) : Table.toList t = Table.toList t' → t = t'

omit [DecidableEq κ] in
/-- What goes past entries with other keys does nothing to them. -/
theorem append_of_skips {k : κ} {f : List (κ × ν) → List (κ × ν)} (hskip : ∀ e es, e.1 ≠ k → f (e :: es) = e :: f es)
    {front : List (κ × ν)} (hfront : ∀ e ∈ front, e.1 ≠ k) (back : List (κ × ν)) : f (front ++ back) = front ++ f back := by
  induction front with
  | nil => rfl
  | cons e front ih =>
      obtain ⟨hhead, htail⟩ := List.forall_mem_cons.1 hfront
      rw [List.cons_append, hskip _ _ hhead, ih htail, List.cons_append]

theorem removeEntry_append {k : κ} {front : List (κ × ν)} (hfront : ∀ e ∈ front, e.1 ≠ k) (back : List (κ × ν)) :
    removeEntry k (front ++ back) = front ++ removeEntry k back :=
  append_of_skips (fun _ _ he => if_neg he) hfront back

instance : FrontKeepingTable (EntryList κ ν) where
  toList_remove t k front back hlist hfront := by
    have hlist : t.entries = front ++ back := hlist
    refine ⟨removeEntry k back, ?_⟩
    change removeEntry k t.entries = _
    rw [hlist, removeEntry_append hfront]
  ext t t' hlist := by
    obtain ⟨es, hdistinct⟩ := t
    obtain ⟨es', hdistinct'⟩ := t'
    obtain rfl : es = es' := hlist
    rfl

end ShardStore
