import ShardStore.Proofs.Bounded.Unbounded

/-!
# Batches under a limit

A batch changes the keys that are there wherever they stand in it. Of the others it adds those that come first, as many as there is
room for, and drops the rest. A key that comes again has been added or dropped before, and takes no room.
-/

namespace ShardStore

namespace Bounded

variable {τ κ ν : Type} [DecidableEq κ] [Table τ κ ν] {m : Bounded τ} {k a : κ} {ks : List κ}

/-- The keys of a batch that are not there, each where it comes first. -/
def newKeys (m : Bounded τ) (ks : List κ) : List κ := (ks.filter fun k => !m.contains k).eraseDups

omit [DecidableEq κ] in
/-- How many of so many new keys there is room for. -/
def roomFor (m : Bounded τ) (wanted : Nat) : Nat :=
  match m.limit with
  | none => wanted
  | some limit => min (limit - m.size) wanted

/-- The new keys of a batch that there is room for. -/
def admitted (m : Bounded τ) (ks : List κ) : List κ := (m.newKeys ks).take (m.roomFor (m.newKeys ks).length)

theorem mem_newKeys : k ∈ m.newKeys ks ↔ k ∈ ks ∧ m.contains k = false := by
  rw [newKeys, List.mem_eraseDups, List.mem_filter, Bool.not_eq_true']

theorem nodup_newKeys (m : Bounded τ) (ks : List κ) : (m.newKeys ks).Nodup := nodup_eraseDups _

omit [DecidableEq κ] in
theorem roomFor_le (m : Bounded τ) (wanted : Nat) : m.roomFor wanted ≤ wanted := by
  rw [roomFor]
  split
  · exact Nat.le_refl wanted
  · exact Nat.min_le_right _ _

theorem length_admitted (m : Bounded τ) (ks : List κ) : (m.admitted ks).length = m.roomFor (m.newKeys ks).length := by
  rw [admitted, List.length_take, Nat.min_eq_left (m.roomFor_le _)]

/-! ## One key of a batch -/

omit [DecidableEq κ] in
theorem roomFor_of_full (hfull : m.isFull = true) (wanted : Nat) : m.roomFor wanted = 0 := by
  rw [isFull] at hfull
  rw [roomFor]
  cases hlimit : m.limit with
  | none => rw [hlimit] at hfull; cases hfull
  | some limit =>
      rw [hlimit, Option.any_some, decide_eq_true_eq] at hfull
      simp only [Nat.sub_eq_zero_of_le hfull, Nat.zero_min]

theorem admitted_of_full (hfull : m.isFull = true) (ks : List κ) : m.admitted ks = [] := by
  rw [admitted, roomFor_of_full hfull, List.take_zero]

variable [LawfulTable τ]

theorem roomFor_set_of_present (hpresent : m.contains k = true) (v : ν) (wanted : Nat) :
    (m.set k v).roomFor wanted = m.roomFor wanted := by
  rw [roomFor, roomFor, limit_set, size_set_of_present hpresent]

theorem roomFor_succ_of_new (habsent : m.contains k = false) (hroom : m.isFull = false) (v : ν) (wanted : Nat) :
    m.roomFor (wanted + 1) = (m.set k v).roomFor wanted + 1 := by
  have hless := isFull_eq_false_iff.1 hroom
  rw [roomFor, roomFor, limit_set, size_set_of_new habsent hroom]
  cases hlimit : m.limit with
  | none => rfl
  | some limit =>
      have hlt := hless limit hlimit
      simp only
      omega

theorem contains_set_of_present (hpresent : m.contains k = true) (v : ν) (a : κ) :
    (m.set k v).contains a = m.contains a := by
  rw [Bool.eq_iff_iff, contains_set]
  refine ⟨?_, .inl⟩
  rintro (hold | ⟨rfl, -⟩)
  · exact hold
  · exact hpresent

theorem contains_set_of_new (habsent : m.contains k = false) (hroom : m.isFull = false) (v : ν) (a : κ) :
    (m.set k v).contains a = (m.contains a || a == k) := by
  have htakes : m.takes k = true := by rw [takes_of_absent habsent, hroom, Bool.not_false]
  rw [Bool.eq_iff_iff, contains_set, Bool.or_eq_true, beq_iff_eq, htakes, eq_comm (a := a)]
  simp only [and_true]

theorem admitted_cons_of_present (hpresent : m.contains k = true) (ks : List κ) (v : ν) :
    m.admitted (k :: ks) = (m.set k v).admitted ks := by
  have hnew : m.newKeys (k :: ks) = (m.set k v).newKeys ks := by
    rw [newKeys, newKeys, List.filter_cons_of_neg (by simp [hpresent])]
    simp only [contains_set_of_present hpresent]
  rw [admitted, admitted, hnew, roomFor_set_of_present hpresent]

theorem admitted_cons_of_new (habsent : m.contains k = false) (hroom : m.isFull = false) (ks : List κ) (v : ν) :
    m.admitted (k :: ks) = k :: (m.set k v).admitted ks := by
  have hnew : m.newKeys (k :: ks) = k :: (m.set k v).newKeys ks := by
    rw [newKeys, newKeys, List.filter_cons_of_pos (by simp [habsent]), List.eraseDups_cons, List.filter_filter]
    simp only [contains_set_of_new habsent hroom, Bool.not_or, Bool.and_comm]
  rw [admitted, admitted, hnew, List.length_cons, roomFor_succ_of_new habsent hroom v, List.take_succ_cons]

/-! ## A whole batch -/

/-- A batch adds the new keys that there is room for, and no others. -/
theorem setAll_admits (m : Bounded τ) (ks : List κ) (v : ν) :
    (∀ a, (m.setAll ks v).contains a = true ↔ m.contains a = true ∨ a ∈ m.admitted ks) ∧
      (m.setAll ks v).size = m.size + (m.admitted ks).length := by
  induction ks generalizing m with
  | nil => exact ⟨fun a => by simp [setAll, admitted, newKeys], by simp [setAll, admitted, newKeys]⟩
  | cons k ks ih =>
      -- the map that the rest is for has the first key or is full, and so admits from the rest what `m` has left to admit
      obtain ⟨hkeys, hsize⟩ := ih (m.set k v)
      have hrest : m.setAll (k :: ks) v = (m.set k v).setAll ks v := rfl
      rw [hrest]
      cases hpresent : m.contains k with
      | true =>
          rw [admitted_cons_of_present hpresent ks v, hsize, size_set_of_present hpresent]
          exact ⟨fun a => by rw [hkeys, contains_set_of_present hpresent], rfl⟩
      | false =>
          cases hfull : m.isFull with
          | true =>
              rw [set_of_not_takes (takes_eq_false_iff.2 ⟨hpresent, hfull⟩)] at hkeys hsize ⊢
              rw [admitted_of_full hfull] at hkeys hsize ⊢
              exact ⟨hkeys, hsize⟩
          | false =>
              rw [admitted_cons_of_new hpresent hfull ks v, hsize, size_set_of_new hpresent hfull, List.length_cons]
              refine ⟨fun a => ?_, by omega⟩
              rw [hkeys, contains_set_of_new hpresent hfull, Bool.or_eq_true, beq_iff_eq, List.mem_cons, or_assoc]

/-- What a batch does: keys that are there get the new value; of the new ones the first are added that there is room for, and the
others are dropped. -/
structure FillsRoom (m : Bounded τ) (ks : List κ) (v : ν) : Prop where
  changes : ∀ k ∈ ks, m.contains k = true → (m.setAll ks v).get? k = some v
  adds : ∀ k ∈ (m.newKeys ks).take (m.roomFor (m.newKeys ks).length), (m.setAll ks v).get? k = some v
  drops : ∀ k ∈ (m.newKeys ks).drop (m.roomFor (m.newKeys ks).length), (m.setAll ks v).get? k = none
  others : ∀ k ∉ ks, (m.setAll ks v).get? k = m.get? k
  size : (m.setAll ks v).size = m.size + m.roomFor (m.newKeys ks).length

theorem fillsRoom (m : Bounded τ) (ks : List κ) (v : ν) : m.FillsRoom ks v where
  changes k hk hpresent := get?_setAll_of_mem hk (contains_setAll hpresent ks v)
  adds k hk := by
    have hmem := (mem_newKeys.1 (List.mem_of_mem_take hk)).1
    exact get?_setAll_of_mem hmem (((m.setAll_admits ks v).1 k).2 (.inr hk))
  drops k hk := by
    have habsent := (mem_newKeys.1 (List.mem_of_mem_drop hk)).2
    have hnot : k ∉ m.admitted ks := fun hfirst => List.disjoint_take_drop (m.nodup_newKeys ks) (Nat.le_refl _) hfirst hk
    rw [← contains_eq_false_iff, Bool.eq_false_iff, ne_eq, (m.setAll_admits ks v).1 k, habsent]
    exact not_or.2 ⟨Bool.false_ne_true, hnot⟩
  others k hk := get?_setAll_of_not_mem hk m v
  size := by rw [(m.setAll_admits ks v).2, length_admitted]

/-! ## Other batches -/

/-- A batch that comes again changes nothing: what it has dropped before is dropped again, since the map was full then. -/
theorem alike_setAll_again (m : Bounded τ) (ks : List κ) (v : ν) : ((m.setAll ks v).setAll ks v).Alike (m.setAll ks v) := by
  intro a
  rw [get?_setAll (m.setAll ks v)]
  split
  · next hset =>
      obtain ⟨ha, hagain⟩ := hset
      refine (get?_setAll_of_mem ha (eq_true_of_ne_false fun hdropped => ?_)).symm
      have hnothing := admitted_of_full (isFull_of_dropped ha hdropped) ks
      rw [((m.setAll ks v).setAll_admits ks v).1, hdropped, hnothing] at hagain
      rcases hagain with hold | hnew
      · cases hold
      · cases hnew
  · rfl

theorem get?_setAll_of_unlimited (hfree : m.limit = none) (ks : List κ) (v : ν) (a : κ) :
    (m.setAll ks v).get? a = if a ∈ ks then some v else m.get? a := by
  split
  · next ha =>
      refine get?_setAll_of_mem ha (eq_true_of_ne_false fun hdropped => ?_)
      have hfull := isFull_of_dropped ha hdropped
      rw [isFull_of_unlimited ((m.limit_setAll ks v).trans hfree)] at hfull
      cases hfull
  · next ha => exact get?_setAll_of_not_mem ha m v

/-- A batch changes the keys that are there and adds the first of the new ones, as many as there is room for. When it comes again
it changes nothing. Without a limit only the set of its keys matters, as it always does when keys are taken out. -/
theorem batch_fills_room (m : Bounded τ) (ks : List κ) (v : ν) :
    m.FillsRoom ks v ∧ ((m.setAll ks v).setAll ks v).Alike (m.setAll ks v) ∧
    (m.limit = none → ∀ ks', (∀ k, k ∈ ks ↔ k ∈ ks') → (m.setAll ks v).Alike (m.setAll ks' v)) ∧
    ∀ k, (m.deleteAll ks).get? k = if k ∈ ks then none else m.get? k := by
  refine ⟨m.fillsRoom ks v, m.alike_setAll_again ks v, fun hfree ks' hsame k => ?_, m.get?_deleteAll ks⟩
  simp only [get?_setAll_of_unlimited hfree, hsame]

/-- Room for one of two new keys, with changes of the others before and after; and the same keys in another order where there is no
limit. -/
theorem first_new_key_admitted :
    let ks := [3, 2, 4, 3, 1]
    let m : Bounded (EntryList Nat Nat) := (withLimit 3).setAll [1, 2] 10
    let u : Bounded (EntryList Nat Nat) := unbounded
    m.newKeys ks = [3, 4] ∧ m.roomFor 2 = 1 ∧ (m.setAll ks 20).get? 1 = some 20 ∧ (m.setAll ks 20).get? 3 = some 20 ∧
      (m.setAll ks 20).get? 4 = none ∧ (m.setAll ks 20).size = m.size + 1 ∧ u.limit = none ∧
      (∀ k, k ∈ [3, 1, 3] ↔ k ∈ [1, 3]) ∧ (u.setAll [3, 1, 3] 20).Alike (u.setAll [1, 3] 20) := by
  intro ks m u
  have hnew : m.newKeys ks = [3, 4] := by decide
  have hroom : m.roomFor 2 = 1 := by decide
  obtain ⟨hfills, -, -, -⟩ := batch_fills_room m ks 20
  obtain ⟨-, -, hfree, -⟩ := batch_fills_room u [3, 1, 3] 20
  have hadds := hfills.adds
  have hdrops := hfills.drops
  have hsize := hfills.size
  rw [hnew] at hadds hdrops hsize
  have hsame : ∀ k, k ∈ [3, 1, 3] ↔ k ∈ [1, 3] := fun k => by
    simp only [List.mem_cons, List.not_mem_nil, or_false]
    omega
  exact ⟨hnew, hroom, hfills.changes 1 (by decide) (by decide), hadds 3 (by decide), hdrops 4 (by decide), hsize, rfl, hsame,
    hfree rfl [1, 3] hsame⟩

end Bounded
end ShardStore
