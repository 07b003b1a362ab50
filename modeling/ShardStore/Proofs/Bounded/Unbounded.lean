import Mathlib.Data.List.Infix
import ShardStore.Proofs.Bounded.Cell
import ShardStore.Proofs.Walk

/-!
# What a limit takes away

The same operations on a map with a limit and on one without. A limit takes keys away and adds none, and keeps the values right
unless a key is set on condition that it is absent. A run that never needs more than the limit does not meet it.
-/

namespace ShardStore

/-- The answers to an operation say the same, up to the order of lists, unless it asks for the limit. -/
def BoundedOp.AnswersAlike {κ ν : Type} : BoundedOp κ ν → BoundedAnswer κ ν → BoundedAnswer κ ν → Prop
  | .limit, _, _ => True
  | .keys, .keys ks, .keys ks' => ks.Perm ks'
  | .entries, .entries es, .entries es' => es.Perm es'
  | .walk decide, .visited es, .visited es' => VisitsAlike List.Perm decide es es'
  | _, answer, answer' => answer = answer'

namespace Bounded

variable {τ τ' κ ν : Type} [Table τ κ ν] [Table τ' κ ν]

/-- Each key of the first map is one of the second, and the values of both are in the relation `R`. -/
def Below (R : ν → ν → Prop) (m : Bounded τ) (u : Bounded τ') : Prop :=
  ∀ k v, m.get? k = some v → ∃ w, u.get? k = some w ∧ R v w

/-- Look-ups find the same in both maps. -/
def Alike (m : Bounded τ) (u : Bounded τ') : Prop := ∀ k, m.get? k = u.get? k

variable [DecidableEq κ] [LawfulTable τ] [LawfulTable τ'] {R : ν → ν → Prop} {m : Bounded τ} {u : Bounded τ'}

omit [DecidableEq κ] [LawfulTable τ'] in
theorem isFull_of_unlimited (hfree : u.limit = none) : u.isFull = false := by rw [isFull, hfree, Option.any_none]

omit [DecidableEq κ] [LawfulTable τ'] in
theorem takes_of_unlimited (hfree : u.limit = none) (k : κ) : u.takes k = true := by
  rw [takes, isFull_of_unlimited hfree, Bool.not_false, Bool.or_true]

/-! ## A part of the other map -/

theorem Below.set (hb : m.Below R u) (hfree : u.limit = none) {v : ν} (hrefl : R v v) (k : κ) :
    (m.set k v).Below R (u.set k v) := by
  intro a w hget
  rw [get?_set] at hget
  rw [get?_set, takes_of_unlimited hfree]
  by_cases hk : k = a
  · subst hk
    split at hget
    · cases hget
      exact ⟨v, if_pos ⟨rfl, rfl⟩, hrefl⟩
    · next hdropped =>
        -- a key that is there cannot be dropped
        exact absurd ⟨rfl, takes_of_present (by rw [contains_eq, hget]; rfl)⟩ hdropped
  · rw [if_neg fun h => hk h.1] at hget ⊢
    exact hb a w hget

theorem Below.setAll (hb : m.Below R u) (hfree : u.limit = none) {v : ν} (hrefl : R v v) (ks : List κ) :
    (m.setAll ks v).Below R (u.setAll ks v) := by
  induction ks generalizing m u with
  | nil => exact hb
  | cons k ks ih => exact ih (hb.set hfree hrefl k) ((u.limit_set k v).trans hfree)

theorem Below.setIfAbsent (hb : m.Below R u) (hfree : u.limit = none) (hany : ∀ v w, R v w) (k : κ) (v : ν) :
    (m.setIfAbsent k v).2.Below R (u.setIfAbsent k v).2 := by
  cases hm : m.get? k with
  | some old =>
      obtain ⟨w, hu, -⟩ := hb k old hm
      rw [setIfAbsent_of_present hm, setIfAbsent_of_present hu]
      exact hb
  | none =>
      rw [setIfAbsent_of_absent hm]
      cases hu : u.get? k with
      | none =>
          rw [setIfAbsent_of_absent hu]
          exact hb.set hfree (hany v v) k
      | some w =>
          -- the first map has dropped the key before, so its value can be newer than that of the second
          rw [setIfAbsent_of_present hu]
          intro a v' hget
          rw [get?_set] at hget
          split at hget
          · next hkept => exact ⟨w, hkept.1 ▸ hu, hany v' w⟩
          · exact hb a v' hget

theorem Below.delete (hb : m.Below R u) (k : κ) : (m.delete k).Below R (u.delete k) := by
  intro a v hget
  rw [get?_delete] at hget ⊢
  split at hget
  · cases hget
  · next hk =>
      rw [if_neg hk]
      exact hb a v hget

theorem Below.deleteAll (hb : m.Below R u) (ks : List κ) : (m.deleteAll ks).Below R (u.deleteAll ks) := by
  induction ks generalizing m u with
  | nil => exact hb
  | cons k ks ih => exact ih (hb.delete k)

theorem Below.step (hb : m.Below R u) (hfree : u.limit = none) (hrefl : ∀ v, R v v) {op : BoundedOp κ ν}
    (hop : (∀ k v, op ≠ .setIfAbsent k v) ∨ ∀ v w, R v w) : (op.step m).2.Below R (op.step u).2 := by
  cases op with
  | set k v => exact hb.set hfree (hrefl v) k
  | setAll ks v => exact hb.setAll hfree (hrefl v) ks
  | setIfAbsent k v =>
      rcases hop with hnot | hany
      · exact absurd rfl (hnot k v)
      · exact hb.setIfAbsent hfree hany k v
  | delete k => exact hb.delete k
  | deleteAll ks => exact hb.deleteAll ks
  | clear =>
      intro a v hget
      cases (m.get?_clear a).symm.trans hget
  | get | contains | size | limit | keys | entries | walk => exact hb

theorem Below.run (hb : m.Below R u) (hfree : u.limit = none) (hrefl : ∀ v, R v v) {ops : List (BoundedOp κ ν)}
    (hops : (∀ op ∈ ops, ∀ k v, op ≠ .setIfAbsent k v) ∨ ∀ v w, R v w) :
    (BoundedOp.run m ops).2.Below R (BoundedOp.run u ops).2 := by
  induction ops generalizing m u with
  | nil => exact hb
  | cons op ops ih =>
      have hnext := hb.step hfree hrefl (hops.imp_left fun hnot => hnot op (List.mem_cons_self ..))
      exact ih hnext ((BoundedOp.limit_step u op).trans hfree)
        (hops.imp_left fun hnot op hop => hnot op (List.mem_cons_of_mem _ hop))

omit [LawfulTable τ'] in
theorem below_fresh (limit : Nat) : (withLimit limit : Bounded τ).Below R (unbounded : Bounded τ') := by
  intro k v hget
  cases (LawfulTable.get?_withCapacity limit k).symm.trans hget

/-! ## As much as the other map -/

theorem Alike.toList_perm (ha : m.Alike u) : m.toList.Perm u.toList := Table.toList_perm_of_get? ha

theorem Alike.contains_eq (ha : m.Alike u) (k : κ) : m.contains k = u.contains k := by
  rw [Bounded.contains_eq, Bounded.contains_eq, ha k]

theorem Alike.size_eq (ha : m.Alike u) : m.size = u.size := by
  have hlength := ha.toList_perm.length_eq
  rwa [toList, toList, LawfulTable.length_toList, LawfulTable.length_toList] at hlength

/-- The map `u` has no more entries than the limit of `m` allows. -/
def Fits (u : Bounded τ') (m : Bounded τ) : Prop := ∀ limit, m.limit = some limit → u.size ≤ limit

theorem Alike.takes (ha : m.Alike u) (hfree : u.limit = none) {k : κ} {v : ν} (hfits : (u.set k v).Fits m) :
    m.takes k = true := by
  cases hm : m.contains k with
  | true => exact takes_of_present hm
  | false =>
      have hu : u.contains k = false := (ha.contains_eq k).symm.trans hm
      rw [takes_of_absent hm, Bool.not_eq_true', isFull_eq_false_iff]
      intro limit hlimit
      rw [ha.size_eq, ← Nat.succ_le_iff, Nat.succ_eq_add_one, ← size_set_of_new hu (isFull_of_unlimited hfree) v]
      exact hfits limit hlimit

theorem Alike.set (ha : m.Alike u) (hfree : u.limit = none) {k : κ} {v : ν} (hfits : (u.set k v).Fits m) :
    (m.set k v).Alike (u.set k v) := by
  intro a
  rw [get?_set, get?_set, ha.takes hfree hfits, takes_of_unlimited hfree, ha a]

theorem Alike.setAll (ha : m.Alike u) (hfree : u.limit = none) {ks : List κ} {v : ν} (hfits : (u.setAll ks v).Fits m) :
    (m.setAll ks v).Alike (u.setAll ks v) := by
  induction ks generalizing m u with
  | nil => exact ha
  | cons k ks ih =>
      -- the batch only grows, so its first set fits as its end does
      have hfirst : (u.set k v).Fits m := fun limit hlimit =>
        Nat.le_trans ((u.set k v).size_le_setAll ks v) (hfits limit hlimit)
      refine ih (ha.set hfree hfirst) ((u.limit_set k v).trans hfree) fun limit hlimit => ?_
      exact hfits limit ((m.limit_set k v).symm.trans hlimit)

theorem Alike.setIfAbsent (ha : m.Alike u) (hfree : u.limit = none) {k : κ} {v : ν}
    (hfits : (u.setIfAbsent k v).2.Fits m) :
    (m.setIfAbsent k v).1 = (u.setIfAbsent k v).1 ∧ (m.setIfAbsent k v).2.Alike (u.setIfAbsent k v).2 := by
  cases hm : m.get? k with
  | some old =>
      rw [setIfAbsent_of_present hm, setIfAbsent_of_present ((ha k).symm.trans hm)]
      exact ⟨rfl, ha⟩
  | none =>
      have hu : u.get? k = none := (ha k).symm.trans hm
      rw [setIfAbsent_of_absent hu] at hfits
      have htakes := ha.takes hfree hfits
      rw [takes_of_absent (contains_eq_false_iff.2 hm)] at htakes
      rw [setIfAbsent_of_absent hm, setIfAbsent_of_absent hu, htakes, isFull_of_unlimited hfree]
      exact ⟨rfl, ha.set hfree hfits⟩

theorem Alike.delete (ha : m.Alike u) (k : κ) : (m.delete k).Alike (u.delete k) := by
  intro a
  rw [get?_delete, get?_delete, ha a]

theorem Alike.deleteAll (ha : m.Alike u) (ks : List κ) : (m.deleteAll ks).Alike (u.deleteAll ks) := by
  intro a
  rw [get?_deleteAll, get?_deleteAll, ha a]

theorem Alike.step (ha : m.Alike u) (hfree : u.limit = none) {op : BoundedOp κ ν} (hfits : (op.step u).2.Fits m) :
    op.AnswersAlike (op.step m).1 (op.step u).1 ∧ (op.step m).2.Alike (op.step u).2 := by
  cases op with
  | set k v => exact ⟨rfl, ha.set hfree hfits⟩
  | setAll ks v => exact ⟨rfl, ha.setAll hfree hfits⟩
  | setIfAbsent k v =>
      obtain ⟨hanswer, hnext⟩ := ha.setIfAbsent hfree hfits
      refine ⟨?_, hnext⟩
      show BoundedAnswer.stored (m.setIfAbsent k v).1.1 (m.setIfAbsent k v).1.2 =
        .stored (u.setIfAbsent k v).1.1 (u.setIfAbsent k v).1.2
      rw [hanswer]
  | delete k => exact ⟨rfl, ha.delete k⟩
  | deleteAll ks => exact ⟨rfl, ha.deleteAll ks⟩
  | clear => exact ⟨rfl, fun k => (m.get?_clear k).trans (u.get?_clear k).symm⟩
  | get k => exact ⟨congrArg BoundedAnswer.value (ha k), ha⟩
  | contains k => exact ⟨congrArg BoundedAnswer.truth (ha.contains_eq k), ha⟩
  | size => exact ⟨congrArg BoundedAnswer.count ha.size_eq, ha⟩
  | limit => exact ⟨trivial, ha⟩
  | keys => exact ⟨ha.toList_perm.map Prod.fst, ha⟩
  | entries => exact ⟨ha.toList_perm, ha⟩
  | walk decide => exact ⟨visitsAlike_walk ha.toList_perm decide, ha⟩

theorem Alike.run (ha : m.Alike u) (hfree : u.limit = none) {ops : List (BoundedOp κ ν)}
    (hfits : ∀ before, before <+: ops → (BoundedOp.run u before).2.Fits m) :
    (BoundedOp.run m ops).2.Alike (BoundedOp.run u ops).2 := by
  induction ops generalizing m u with
  | nil => exact ha
  | cons op ops ih =>
      have hfirst : (op.step u).2.Fits m := hfits [op] (List.cons_prefix_cons.2 ⟨rfl, List.nil_prefix⟩)
      refine ih (ha.step hfree hfirst).2 ((BoundedOp.limit_step u op).trans hfree) fun before hbefore limit hlimit => ?_
      exact hfits (op :: before) (List.cons_prefix_cons.2 ⟨rfl, hbefore⟩) limit ((BoundedOp.limit_step m op).symm.trans hlimit)

theorem alike_fresh (limit : Nat) : (withLimit limit : Bounded τ).Alike (unbounded : Bounded τ') := fun k =>
  (LawfulTable.get?_withCapacity limit k).trans (LawfulTable.get?_withCapacity 0 k).symm

omit [DecidableEq κ] [LawfulTable τ] [LawfulTable τ'] in
theorem fits_withLimit {limit : Nat} (hle : u.size ≤ limit) : u.Fits (withLimit limit : Bounded τ) := by
  intro most hmost
  rw [withLimit] at hmost
  split at hmost
  · cases hmost
  · cases hmost
    exact hle

/-! ## Runs from the beginning -/

section

variable {limit : Nat} {ops : List (BoundedOp κ ν)}

theorem below_run (hrefl : ∀ v, R v v) (hops : (∀ op ∈ ops, ∀ k v, op ≠ .setIfAbsent k v) ∨ ∀ v w, R v w) :
    (BoundedOp.run (.withLimit limit : Bounded τ) ops).2.Below R (BoundedOp.run (.unbounded : Bounded τ') ops).2 :=
  (below_fresh limit).run rfl hrefl hops

theorem alike_run (hfits : ∀ before, before <+: ops → (BoundedOp.run (.unbounded : Bounded τ') before).2.size ≤ limit) :
    (BoundedOp.run (.withLimit limit : Bounded τ) ops).2.Alike (BoundedOp.run (.unbounded : Bounded τ') ops).2 :=
  (alike_fresh limit).run rfl fun before hbefore => fits_withLimit (hfits before hbefore)

theorem answersAlike_run {op : BoundedOp κ ν}
    (hfits : ∀ before, before <+: ops ++ [op] → (BoundedOp.run (.unbounded : Bounded τ') before).2.size ≤ limit) :
    op.AnswersAlike (op.step (BoundedOp.run (.withLimit limit : Bounded τ) ops).2).1
      (op.step (BoundedOp.run (.unbounded : Bounded τ') ops).2).1 := by
  have halike := alike_run (τ := τ) fun before hbefore => hfits before (hbefore.trans (List.prefix_append ops [op]))
  have hfree := BoundedOp.limit_run (.unbounded : Bounded τ') ops
  refine (halike.step hfree fun most hmost => ?_).1
  have hsize := hfits (ops ++ [op]) List.prefix_rfl
  rw [BoundedOp.run_append] at hsize
  exact fits_withLimit hsize most ((BoundedOp.limit_run (.withLimit limit : Bounded τ) ops).symm.trans hmost)

end

/-- The same run on an empty map with a limit and on one without. The keys of the first are keys of the second; the values are the
same unless a key is set on condition that it is absent; and while the second needs no more than the limit, both have the same
entries and answer alike. -/
theorem follows_unbounded (limit : Nat) (ops : List (BoundedOp κ ν)) :
    let m (ops : List (BoundedOp κ ν)) : Bounded τ := (BoundedOp.run (.withLimit limit) ops).2
    let u (ops : List (BoundedOp κ ν)) : Bounded τ' := (BoundedOp.run .unbounded ops).2
    (∀ k, (m ops).contains k = true → (u ops).contains k = true) ∧
    ((∀ op ∈ ops, ∀ k v, op ≠ .setIfAbsent k v) → ∀ k v, (m ops).get? k = some v → (u ops).get? k = some v) ∧
    ((∀ before, before <+: ops → (u before).size ≤ limit) →
      (∀ before, before <+: ops → (m before).Alike (u before)) ∧
      ∀ before op, before ++ [op] <+: ops → op.AnswersAlike (op.step (m before)).1 (op.step (u before)).1) := by
  intro m u
  refine ⟨fun k hpresent => ?_, fun hnot k v hget => ?_, fun hfits => ⟨fun before hbefore => ?_, fun before op hnext => ?_⟩⟩
  · have hkeys : (m ops).Below (fun _ _ => True) (u ops) := below_run (fun _ => trivial) (.inr fun _ _ => trivial)
    rw [contains_eq, Option.isSome_iff_exists] at hpresent ⊢
    obtain ⟨v, hget⟩ := hpresent
    obtain ⟨w, hw, -⟩ := hkeys k v hget
    exact ⟨w, hw⟩
  · have hentries : (m ops).Below Eq (u ops) := below_run (fun _ => rfl) (.inl hnot)
    obtain ⟨w, hw, rfl⟩ := hentries k v hget
    exact hw
  · exact alike_run fun first hfirst => hfits first (hfirst.trans hbefore)
  · exact answersAlike_run fun first hfirst => hfits first (hfirst.trans hnext)

/-- A limit of two keys. One run comes to three keys, one of which is dropped at first. The other never comes to more than two, and
sets two of them on condition that they are absent. -/
theorem two_keys_followed :
    let dropping : List (BoundedOp Nat Nat) := [.set 1 10, .setAll [2, 3] 20, .delete 1, .set 3 30]
    let fitting : List (BoundedOp Nat Nat) :=
      [.set 1 10, .setIfAbsent 2 20, .delete 1, .setAll [3, 2] 30, .setIfAbsent 3 40]
    let m (ops : List (BoundedOp Nat Nat)) : Bounded (EntryList Nat Nat) := (BoundedOp.run (.withLimit 2) ops).2
    let u (ops : List (BoundedOp Nat Nat)) : Bounded (EntryList Nat Nat) := (BoundedOp.run .unbounded ops).2
    (∀ op ∈ dropping, ∀ k v, op ≠ .setIfAbsent k v) ∧ (m dropping).get? 3 = some 30 ∧ (u dropping).get? 3 = some 30 ∧
      (∀ before, before <+: fitting → (u before).size ≤ 2) ∧ (m fitting).Alike (u fitting) := by
  intro dropping fitting m u
  have hnot : ∀ op ∈ dropping, ∀ k v, op ≠ .setIfAbsent k v := by simp [dropping]
  have hget : (m dropping).get? 3 = some 30 := by decide
  have hfits : ∀ before, before <+: fitting → (u before).size ≤ 2 := fun before hbefore => by
    have hall : ∀ before ∈ fitting.inits, (u before).size ≤ 2 := by decide
    exact hall before ((List.mem_inits before fitting).2 hbefore)
  obtain ⟨-, hentries, -⟩ := @follows_unbounded (EntryList Nat Nat) (EntryList Nat Nat) Nat Nat _ _ _ _ _ 2 dropping
  obtain ⟨-, -, halike⟩ := @follows_unbounded (EntryList Nat Nat) (EntryList Nat Nat) Nat Nat _ _ _ _ _ 2 fitting
  exact ⟨hnot, hget, hentries hnot 3 30 hget, hfits, (halike hfits).1 fitting (List.prefix_refl fitting)⟩

/-- A key set on condition that it is absent can have a newer value under a limit: without one it was there. -/
example :
    let ops : List (BoundedOp Nat Nat) := [.set 1 10, .setIfAbsent 2 20, .delete 1, .setIfAbsent 2 30]
    (BoundedOp.run (.withLimit 1 : Bounded (EntryList Nat Nat)) ops).2.get? 2 = some 30 ∧
      (BoundedOp.run (.unbounded : Bounded (EntryList Nat Nat)) ops).2.get? 2 = some 20 := by decide

end Bounded
end ShardStore
