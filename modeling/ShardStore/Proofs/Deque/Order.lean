import Mathlib.Data.Set.Card
import ShardStore.Deque

/-!
# The order of a double-ended list

Every item that was appended has left at the front or at the back, or is still there, and that once. What has left at the
front and what is there follow each other in the order of the appends.
-/

namespace ShardStore

variable {α β : Type} {growth : Growth}

/-! ## What a run shows -/

/-- An operation on a double-ended list with its answer. -/
abbrev DequeEvent (α : Type) := DequeOp α × DequeAnswer α

namespace DequeEvent

/-- The item that was added. -/
def appended? (e : DequeEvent α) : Option α :=
  match e with
  | (.append a, _) => some a
  | _ => none

/-- The item that has left at the front. -/
def shifted? (e : DequeEvent α) : Option α :=
  match e with
  | (.shift, .item a) => a
  | _ => none

/-- The item that has left at the back. -/
def popped? (e : DequeEvent α) : Option α :=
  match e with
  | (.pop, .item a) => a
  | _ => none

/-- The items that were appended and have not left. -/
def present (past : List (DequeEvent α)) : Set α :=
  {a | a ∈ past.filterMap appended? ∧ a ∉ past.filterMap shifted? ∧ a ∉ past.filterMap popped?}

/-- The answer is the one where `there` are the items, each with a number. -/
def IsRight (there : Set (Nat × α)) (e : DequeEvent (Nat × α)) : Prop :=
  match e with
  | (.append _, .done) => True
  | (.pop, .item o) => (o = none ↔ there = ∅) ∧ ∀ a, o = some a → a ∈ there ∧ ∀ b ∈ there, b.1 ≤ a.1
  | (.shift, .item o) => (o = none ↔ there = ∅) ∧ ∀ a, o = some a → a ∈ there ∧ ∀ b ∈ there, a.1 ≤ b.1
  | (.get i, .item o) =>
    (o.isSome = true ↔ i < there.ncard) ∧ ∀ a, o = some a → a ∈ there ∧ {b ∈ there | b.1 < a.1}.ncard = i
  | (.length, .count n) => n = there.ncard
  | (.room, .count n) => there.ncard ≤ n
  | _ => False

end DequeEvent

open DequeEvent

/-! ## Nothing is lost -/

theorem Growth.needed_le_grown (growth : Growth) (room needed : Nat) : needed ≤ growth.grown room needed := by
  rw [grown]
  split
  · next henough => exact henough
  · exact growth.needed_le_made room needed

namespace Deque

/-- Where the items are that were appended in the past of a list. -/
structure Accounts (d : Deque α) (past : List (DequeEvent α)) : Prop where
  once : (past.filterMap shifted? ++ past.filterMap popped? ++ d.items).Perm (past.filterMap appended?)
  inOrder : (past.filterMap shifted? ++ d.items).Sublist (past.filterMap appended?)
  room : d.length ≤ d.room

theorem accounts_withCapacity (growth : Growth) (capacity : Nat) : (withCapacity growth capacity : Deque α).Accounts [] :=
  ⟨.nil, .slnil, Nat.zero_le _⟩

variable {d : Deque α} {past : List (DequeEvent α)}

theorem Accounts.append (h : d.Accounts past) (a : α) : (d.append growth a).Accounts (past ++ [(.append a, .done)]) where
  once := by simpa [List.filterMap_cons, appended?, shifted?, popped?, Deque.append] using h.once.append_right [a]
  inOrder := by simpa [List.filterMap_cons, appended?, shifted?, Deque.append] using h.inOrder.append_right [a]
  room := List.length_append.trans_le (growth.needed_le_grown d.room (d.length + 1))

theorem Accounts.pop (h : d.Accounts past) : d.pop.2.Accounts (past ++ [(.pop, .item d.pop.1)]) := by
  have hroom : d.pop.2.length ≤ d.room := (List.dropLast_sublist d.items).length_le.trans h.room
  obtain ⟨honce, horder, -⟩ := h
  obtain ⟨items, room⟩ := d
  rcases List.eq_nil_or_concat items with rfl | ⟨front, a, rfl⟩
  · exact ⟨by simpa [List.filterMap_cons, appended?, shifted?, popped?, Deque.pop] using honce,
      by simpa [List.filterMap_cons, appended?, shifted?, Deque.pop] using horder, hroom⟩
  · -- the item goes over to those that have left at the back, behind the others of them
    have hleft : ([a] ++ front).Perm (front ++ [a]) := List.perm_append_comm
    refine ⟨?_, ?_, hroom⟩
    · simpa [List.filterMap_cons, appended?, shifted?, popped?, Deque.pop] using
        ((hleft.append_left _).append_left _).trans (by simpa using honce)
    · simpa [List.filterMap_cons, appended?, shifted?, Deque.pop] using
        ((List.sublist_append_left front [a]).append_left _).trans (by simpa using horder)

theorem Accounts.shift (h : d.Accounts past) : d.shift.2.Accounts (past ++ [(.shift, .item d.shift.1)]) := by
  have hroom : d.shift.2.length ≤ d.room := (List.tail_sublist d.items).length_le.trans h.room
  obtain ⟨honce, horder, -⟩ := h
  obtain ⟨items, room⟩ := d
  cases items with
  | nil =>
      exact ⟨by simpa [List.filterMap_cons, appended?, shifted?, popped?, Deque.shift] using honce,
        by simpa [List.filterMap_cons, appended?, shifted?, Deque.shift] using horder, hroom⟩
  | cons a back =>
      have hleft : (a :: (past.filterMap popped? ++ back)).Perm (past.filterMap popped? ++ a :: back) :=
        List.perm_middle.symm
      refine ⟨?_, ?_, hroom⟩
      · simpa [List.filterMap_cons, appended?, shifted?, popped?, Deque.shift] using
          (hleft.append_left _).trans (by simpa using honce)
      · simpa [List.filterMap_cons, appended?, shifted?, Deque.shift] using horder

theorem Accounts.step (h : d.Accounts past) (op : DequeOp α) :
    (op.step growth d).2.Accounts (past ++ [(op, (op.step growth d).1)]) := by
  cases op with
  | append a => exact h.append a
  | pop => exact h.pop
  | shift => exact h.shift
  | get | length | room =>
      exact ⟨by simpa [List.filterMap_cons, appended?, shifted?, popped?, DequeOp.step] using h.once,
        by simpa [List.filterMap_cons, appended?, shifted?, DequeOp.step] using h.inOrder, h.room⟩

end Deque

namespace DequeOp

/-- The operations of a run with their answers. -/
def transcript (growth : Growth) (d : Deque α) (ops : List (DequeOp α)) : List (DequeEvent α) :=
  ops.zip (run growth d ops).1

theorem transcript_cons (d : Deque α) (op : DequeOp α) (ops : List (DequeOp α)) :
    transcript growth d (op :: ops) =
      (op, (op.step growth d).1) :: transcript growth (op.step growth d).2 ops := rfl

theorem accounts_run {d : Deque α} {past : List (DequeEvent α)} (h : d.Accounts past) (ops : List (DequeOp α)) :
    (run growth d ops).2.Accounts (past ++ transcript growth d ops) := by
  induction ops generalizing d past with
  | nil => exact (List.append_nil past).symm ▸ h
  | cons op ops ih =>
      rw [transcript_cons, List.append_cons]
      exact ih (h.step op)

/-- Every event of a run is an operation on the list that the run before it has left. -/
theorem of_mem_transcript {d : Deque α} {ops : List (DequeOp α)} {before after : List (DequeEvent α)} {e : DequeEvent α}
    (hsplit : transcript growth d ops = before ++ e :: after) :
    ∃ first op, before = transcript growth d first ∧ e = (op, (op.step growth (run growth d first).2).1) := by
  induction ops generalizing d before with
  | nil => simp [transcript] at hsplit
  | cons op ops ih =>
      rw [transcript_cons] at hsplit
      cases before with
      | nil => exact ⟨[], op, rfl, (List.cons.inj hsplit).1.symm⟩
      | cons b before =>
          obtain ⟨rfl, hrest⟩ := List.cons.inj hsplit
          obtain ⟨first, op', rfl, rfl⟩ := ih hrest
          exact ⟨op :: first, op', rfl, rfl⟩

end DequeOp

/-! ## Items with the number of their append -/

/-- The list with something else in the place of each item. -/
def Deque.map (f : α → β) (d : Deque α) : Deque β := ⟨d.items.map f, d.room⟩

/-- The answer where something else is in the place of each item. -/
def DequeAnswer.map (f : α → β) : DequeAnswer α → DequeAnswer β
  | .done => .done
  | .item a => .item (a.map f)
  | .count n => .count n

namespace DequeOp

/-- The operation with something else in the place of each item. -/
def map (f : α → β) : DequeOp α → DequeOp β
  | .append a => .append (f a)
  | .pop => .pop
  | .shift => .shift
  | .get index => .get index
  | .length => .length
  | .room => .room

theorem step_map (f : α → β) (d : Deque α) (op : DequeOp α) :
    (op.map f).step growth (d.map f) = ((op.step growth d).1.map f, (op.step growth d).2.map f) := by
  cases op <;> simp [map, step, Deque.map, DequeAnswer.map, Deque.append, Deque.pop, Deque.shift, Deque.get?,
    Deque.length]

/-- What the items are does not matter to a list. -/
theorem run_map (growth : Growth) (f : α → β) (d : Deque α) (ops : List (DequeOp α)) :
    run growth (d.map f) (ops.map (map f)) = ((run growth d ops).1.map (DequeAnswer.map f), (run growth d ops).2.map f) := by
  induction ops generalizing d with
  | nil => rfl
  | cons op ops ih => simp only [List.map_cons, run, step_map, ih]

/-- The operations with its number beside each item that they append, from `n` on. -/
def numbered (n : Nat) : List (DequeOp α) → List (DequeOp (Nat × α))
  | [] => []
  | .append a :: ops => .append (n, a) :: numbered (n + 1) ops
  | op :: ops => op.map (n, ·) :: numbered n ops

theorem map_numbered (n : Nat) (ops : List (DequeOp α)) : (numbered n ops).map (map Prod.snd) = ops := by
  induction ops generalizing n with
  | nil => rfl
  | cons op ops ih => cases op <;> simp [numbered, map, ih]

theorem numbers_appended (n : Nat) (d : Deque (Nat × α)) (ops : List (DequeOp α)) :
    let appends := (transcript growth d (numbered n ops)).filterMap appended?
    appends.map Prod.fst = List.range' n appends.length := by
  induction ops generalizing n d with
  | nil => rfl
  | cons op ops ih =>
      cases op <;>
        simp [numbered, map, transcript_cons, List.filterMap_cons, appended?, List.range'_succ, ih]

end DequeOp

/-! ## Lists in the order of their numbers -/

section

variable {l : List (Nat × α)} {a : Nat × α} {i j : Nat}

theorem ncard_setOf_mem (hl : l.Nodup) : {a | a ∈ l}.ncard = l.length := by
  classical
  rw [← List.toFinset_card_of_nodup hl, ← Set.ncard_coe_finset, List.coe_toFinset]

theorem nodup_of_ordered (hl : l.Pairwise (·.1 < ·.1)) : l.Nodup :=
  List.Pairwise.imp (fun hlt => ne_of_apply_ne Prod.fst hlt.ne) hl

theorem getElem_lt_iff (hl : l.Pairwise (·.1 < ·.1)) (hi : i < l.length) (hj : j < l.length) :
    l[i].1 < l[j].1 ↔ i < j := by
  rw [List.pairwise_iff_getElem] at hl
  rcases Nat.lt_trichotomy i j with hij | rfl | hij
  · exact iff_of_true (hl i j hi hj hij) hij
  · exact iff_of_false (Nat.lt_irrefl _) (Nat.lt_irrefl _)
  · exact iff_of_false (Nat.lt_asymm (hl j i hj hi hij)) (Nat.lt_asymm hij)

/-- In front of an item of an ordered list are just the ones with smaller numbers. -/
theorem ncard_smaller (hl : l.Pairwise (·.1 < ·.1)) (ha : l[i]? = some a) :
    {b ∈ {b | b ∈ l} | b.1 < a.1}.ncard = i := by
  obtain ⟨hi, rfl⟩ := List.getElem?_eq_some_iff.1 ha
  have hfront : {b ∈ {b | b ∈ l} | b.1 < l[i].1} = {b | b ∈ l.take i} := by
    ext b
    rw [Set.mem_ofPred_eq, Set.mem_ofPred_eq, Set.mem_ofPred_eq, List.mem_take_iff_getElem, List.mem_iff_getElem]
    constructor
    · rintro ⟨⟨j, hj, rfl⟩, hlt⟩
      exact ⟨j, Nat.lt_min.2 ⟨(getElem_lt_iff hl hj hi).1 hlt, hj⟩, rfl⟩
    · rintro ⟨j, hj, rfl⟩
      obtain ⟨hji, hj⟩ := Nat.lt_min.1 hj
      exact ⟨⟨j, hj, rfl⟩, (getElem_lt_iff hl hj hi).2 hji⟩
  rw [hfront, ncard_setOf_mem ((nodup_of_ordered hl).sublist (List.take_sublist i l)), List.length_take_of_le hi.le]

theorem setOf_mem_eq_empty_iff : {a | a ∈ l} = ∅ ↔ l = [] := by
  rw [Set.eq_empty_iff_forall_notMem, List.eq_nil_iff_forall_not_mem]
  rfl

end

namespace Deque

variable {d : Deque (Nat × α)} {past : List (DequeEvent (Nat × α))}

theorem isRight_step (hl : d.items.Pairwise (·.1 < ·.1)) (hroom : d.length ≤ d.room) (op : DequeOp (Nat × α)) :
    IsRight {a | a ∈ d.items} (op, (op.step growth d).1) := by
  have hlength : {a | a ∈ d.items}.ncard = d.length := ncard_setOf_mem (nodup_of_ordered hl)
  cases op with
  | append a => trivial
  | pop =>
      refine ⟨List.getLast?_eq_none_iff.trans setOf_mem_eq_empty_iff.symm, fun a ha => ?_⟩
      obtain ⟨front, hitems⟩ := List.getLast?_eq_some_iff.1 ha
      rw [hitems, List.pairwise_append] at hl
      simp only [hitems, Set.mem_ofPred_eq, List.mem_append, List.mem_singleton, or_true, true_and]
      rintro b (hb | rfl)
      · exact (hl.2.2 b hb a (List.mem_singleton_self a)).le
      · exact Nat.le_refl _
  | shift =>
      refine ⟨List.head?_eq_none_iff.trans setOf_mem_eq_empty_iff.symm, fun a ha => ?_⟩
      obtain ⟨back, hitems⟩ := List.head?_eq_some_iff.1 ha
      rw [hitems, List.pairwise_cons] at hl
      simp only [hitems, Set.mem_ofPred_eq, List.mem_cons, true_or, true_and]
      rintro b (rfl | hb)
      · exact Nat.le_refl _
      · exact (hl.1 b hb).le
  | get i =>
      refine ⟨?_, fun a ha => ⟨List.mem_of_getElem? ha, ncard_smaller hl ha⟩⟩
      simp only [hlength, Deque.get?, Deque.length, isSome_getElem?]
  | length => exact hlength.symm
  | room => exact hlength.trans_le hroom

/-- What is in a list is what its past leaves there, if no item was appended twice. -/
theorem Accounts.present_eq (h : d.Accounts past) (hnodup : (past.filterMap appended?).Nodup) :
    present past = {a | a ∈ d.items} := by
  have hparts := h.once.nodup_iff.2 hnodup
  simp only [List.nodup_append, List.mem_append] at hparts
  ext a
  simp only [present, Set.mem_ofPred_eq, ← h.once.mem_iff, List.mem_append]
  constructor
  · rintro ⟨(hshifted | hpopped) | hthere, hno, hno'⟩
    · exact absurd hshifted hno
    · exact absurd hpopped hno'
    · exact hthere
  · intro hthere
    exact ⟨Or.inr hthere, fun hshifted => hparts.2.2 a (Or.inl hshifted) a hthere rfl,
      fun hpopped => hparts.2.2 a (Or.inr hpopped) a hthere rfl⟩

end Deque

/-! ## In the order of the appends -/

namespace DequeOp

/-- A run in which each item has the number of its append. Each item has left at the front or at the back or is still there,
and those that have left at the front and those that are there have ascending numbers. All along, what leaves at the back has
the greatest number of those that are there, what leaves at the front the smallest, and the items are found by the rank of
their numbers. -/
theorem leaves_in_order (growth : Growth) (capacity : Nat) (ops : List (DequeOp α)) :
    let start : Deque (Nat × α) := .withCapacity growth capacity
    let past := transcript growth start (numbered 0 ops)
    let d := (run growth start (numbered 0 ops)).2
    run growth (.withCapacity growth capacity) ops =
        ((run growth start (numbered 0 ops)).1.map (.map Prod.snd), d.map Prod.snd) ∧
      (past.filterMap appended?).map Prod.fst = List.range (past.filterMap appended?).length ∧
      (past.filterMap shifted? ++ past.filterMap popped? ++ d.items).Perm (past.filterMap appended?) ∧
      ((past.filterMap shifted? ++ d.items).map Prod.fst).Pairwise (· < ·) ∧
      ∀ before e after, past = before ++ e :: after → IsRight (present before) e := by
  intro start past d
  have hnumbers : (past.filterMap appended?).map Prod.fst = List.range (past.filterMap appended?).length :=
    (numbers_appended 0 start ops).trans List.range_eq_range'.symm
  have hordered : (past.filterMap appended?).Pairwise (·.1 < ·.1) := by
    rw [← List.pairwise_map, hnumbers]
    exact List.pairwise_lt_range
  have hstart : start.Accounts [] := Deque.accounts_withCapacity growth capacity
  have hend : d.Accounts past := accounts_run hstart _
  refine ⟨?_, hnumbers, hend.once, List.pairwise_map.2 (hordered.sublist hend.inOrder), fun before e after hsplit => ?_⟩
  · have hplain := run_map growth Prod.snd start (numbered 0 ops)
    rwa [map_numbered] at hplain
  · -- the run up to the event has accounts of its own, by which the items there are those present
    obtain ⟨first, op, rfl, rfl⟩ := of_mem_transcript hsplit
    have hfirst : (run growth start first).2.Accounts (transcript growth start first) := accounts_run hstart first
    have hbefore : ((transcript growth start first).filterMap appended?).Pairwise (·.1 < ·.1) := by
      refine hordered.sublist (List.Sublist.filterMap _ ?_)
      rw [hsplit]
      exact List.sublist_append_left ..
    rw [hfirst.present_eq (nodup_of_ordered hbefore)]
    exact Deque.isRight_step (hbefore.sublist ((List.sublist_append_right ..).trans hfirst.inOrder)) hfirst.room op

/-- Of three items the first and the last have left, and the one between is found in front of a fourth. -/
theorem left_at_both_ends :
    let ops : List (DequeOp Char) := [.append 'a', .append 'b', .append 'c', .shift, .pop, .append 'd', .get 0]
    let growth : Growth := ⟨fun room needed => max (2 * room) needed, fun _ needed => Nat.le_max_right _ needed⟩
    let past := transcript growth (.withCapacity growth 2) (numbered 0 ops)
    past = past.take 4 ++ (.pop, .item (some (2, 'c'))) :: past.drop 5 ∧
      (∀ b ∈ present (past.take 4), b.1 ≤ 2) ∧ IsRight (present (past.take 6)) (.get 0, .item (some (1, 'b'))) := by
  intro ops growth past
  have hpop : past = past.take 4 ++ (.pop, .item (some (2, 'c'))) :: past.drop 5 := rfl
  have hget : past = past.take 6 ++ (.get 0, .item (some (1, 'b'))) :: [] := rfl
  obtain ⟨-, -, -, -, hright⟩ := leaves_in_order growth 2 ops
  exact ⟨hpop, ((hright _ _ _ hpop).2 _ rfl).2, hright _ _ _ hget⟩

end DequeOp

end ShardStore
