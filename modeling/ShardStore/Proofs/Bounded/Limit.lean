import ShardStore.Config.Basic
import ShardStore.Proofs.Bounded.Cell
import ShardStore.Proofs.Walk

/-!
# What a limit does

A bounded map never has more entries than its limit, whatever is done to it. The limit turns away new keys only: what is there
can be changed, stays until it is taken out, and then leaves room for another.
-/

namespace ShardStore

/-- Whether an operation takes a key out, if it is there. -/
def BoundedOp.removes {κ ν : Type} [DecidableEq κ] : BoundedOp κ ν → κ → Bool
  | .delete k, a => k = a
  | .deleteAll ks, a => a ∈ ks
  | .clear, _ => true
  | _, _ => false

namespace Bounded

variable {τ κ ν : Type} [Table τ κ ν]

/-- The ways to make an empty map of at most so many entries, where zero is no limit. -/
inductive MadeFor : Bounded τ → Nat → Prop
  | unbounded : MadeFor .unbounded 0
  | withLimit (limit : Nat) : MadeFor (.withLimit limit) limit
  | configured (s : Config.Synced) : MadeFor s.make s.limit.toNat

/-- There are no more entries than the limit allows. -/
def WithinLimit (m : Bounded τ) : Prop := ∀ limit, m.limit = some limit → m.size ≤ limit

/-- Whether a map of at most so many entries has room for another, where zero is no limit. -/
def HasRoom (m : Bounded τ) (limit : Nat) : Prop := limit = 0 ∨ m.size < limit

instance (m : Bounded τ) (limit : Nat) : Decidable (m.HasRoom limit) := inferInstanceAs (Decidable (_ ∨ _))

/-- Whatever the map is asked, it shows the same entries, each key once. -/
structure ShowsOneMap (m : Bounded τ) : Prop where
  contains : ∀ k, m.contains k = (m.get? k).isSome
  keys : ∀ k, k ∈ m.keys ↔ m.contains k = true
  entries : ∀ k v, (k, v) ∈ m.toList ↔ m.get? k = some v
  distinct : m.keys.Nodup ∧ m.toList.Nodup
  size : m.keys.length = m.size ∧ m.toList.length = m.size
  visits : ∀ decide, VisitsUntilStop decide m.toList (m.walk (recording decide) [])

variable [DecidableEq κ]

/-- What a map of at most so many entries does next, where zero is no limit. -/
structure KeepsLimit (m : Bounded τ) (limit : Nat) : Prop where
  within : 0 < limit → m.size ≤ limit
  leaves : ∀ (op : BoundedOp κ ν) k, m.contains k = true → (op.step m).2.contains k = !op.removes k
  changes : ∀ k v, m.contains k = true → ∀ a, (m.set k v).get? a = if k = a then some v else m.get? a
  adds : ∀ k v, m.contains k = false → m.HasRoom limit → ∀ a, (m.set k v).get? a = if k = a then some v else m.get? a
  drops : ∀ k v, m.contains k = false → ¬m.HasRoom limit → m.set k v = m
  /-- Of a batch, each key that is there at the end has the new value, and none is left out unless the map has become full. -/
  batch : ∀ ks v a, (m.setAll ks v).get? a = if a ∈ ks ∧ (m.setAll ks v).contains a = true then some v else m.get? a
  dropsOfBatch : ∀ ks v, ∀ a ∈ ks, (m.setAll ks v).contains a = false → ¬(m.setAll ks v).HasRoom limit
  keepsPresent : ∀ k v old, m.get? k = some old → m.setIfAbsent k v = ((old, false), m)
  addsAbsent : ∀ k v, m.contains k = false → m.HasRoom limit → m.setIfAbsent k v = ((v, true), m.set k v)
  dropsAbsent : ∀ k v, m.contains k = false → ¬m.HasRoom limit → m.setIfAbsent k v = ((v, false), m)
  /-- Once an operation has taken out a key that was there, the next key gets its room. -/
  reuses : ∀ (op : BoundedOp κ ν) k, m.contains k = true → op.removes k = true →
    ∀ a v, (op.step m).2.contains a = false → ((op.step m).2.set a v).get? a = some v ∧
      (op.step m).2.setIfAbsent a v = ((v, true), (op.step m).2.set a v)

variable [LawfulTable τ] {m m₀ : Bounded τ} {limit : Nat}

/-! ## Sizes -/

theorem WithinLimit.set (hwithin : m.WithinLimit) (k : κ) (v : ν) : (m.set k v).WithinLimit := by
  intro limit hlimit
  rw [limit_set] at hlimit
  cases hpresent : m.contains k with
  | true =>
      rw [size_set_of_present hpresent]
      exact hwithin limit hlimit
  | false =>
      cases hfull : m.isFull with
      | true =>
          rw [set_of_not_takes (takes_eq_false_iff.2 ⟨hpresent, hfull⟩)]
          exact hwithin limit hlimit
      | false =>
          rw [size_set_of_new hpresent hfull]
          exact isFull_eq_false_iff.1 hfull limit hlimit

theorem WithinLimit.run (hwithin : m.WithinLimit) (ops : List (BoundedOp κ ν)) : (BoundedOp.run m ops).2.WithinLimit := by
  refine BoundedOp.run_keeps (fun m k v hm => hm.set k v) (fun m k hm limit hlimit => ?_) (fun m hm limit hlimit => ?_) hwithin ops
  · exact Nat.le_trans (m.size_delete_le k) (hm limit hlimit)
  · rw [size_clear]
    exact Nat.zero_le limit

omit [DecidableEq κ] [LawfulTable τ] in
theorem MadeFor.limit_eq (hmade : m₀.MadeFor limit) : m₀.limit = if limit = 0 then none else some limit := by
  cases hmade <;> rfl

theorem MadeFor.withinLimit (hmade : m₀.MadeFor limit) : m₀.WithinLimit := by
  intro most _
  have hempty : m₀.size = 0 := by
    cases hmade <;> exact Table.size_withCapacity _
  rw [hempty]
  exact Nat.zero_le most

omit [DecidableEq κ] [LawfulTable τ] in
theorem hasRoom_iff (hlimit : m.limit = if limit = 0 then none else some limit) : m.HasRoom limit ↔ m.isFull = false := by
  rw [isFull_eq_false_iff, hlimit, HasRoom]
  by_cases hzero : limit = 0 <;> simp [hzero]

omit [DecidableEq κ] [LawfulTable τ] in
theorem not_hasRoom_iff (hlimit : m.limit = if limit = 0 then none else some limit) :
    ¬m.HasRoom limit ↔ m.isFull = true := by
  rw [hasRoom_iff hlimit, Bool.not_eq_false]

/-! ## Taking out -/

theorem get?_step_of_removes {op : BoundedOp κ ν} {k : κ} (hremoves : op.removes k = true) (m : Bounded τ) (a : κ) :
    (op.step m).2.get? a = if op.removes a then none else m.get? a := by
  cases op with
  | delete k =>
      simp only [BoundedOp.removes, decide_eq_true_eq]
      exact m.get?_delete k a
  | deleteAll ks =>
      simp only [BoundedOp.removes, decide_eq_true_eq]
      exact m.get?_deleteAll ks a
  | clear => exact m.get?_clear a
  | set | setAll | setIfAbsent | get | contains | size | limit | keys | entries | walk => cases hremoves

theorem contains_step {k : κ} (hpresent : m.contains k = true) (op : BoundedOp κ ν) :
    (op.step m).2.contains k = !op.removes k := by
  cases op with
  | set a v => exact (m.contains_set a v k).2 (.inl hpresent)
  | setAll ks v => exact contains_setAll hpresent ks v
  | setIfAbsent a v =>
      show (m.setIfAbsent a v).2.contains k = true
      cases hget : m.get? a with
      | some old => rwa [setIfAbsent_of_present hget]
      | none =>
          rw [setIfAbsent_of_absent hget]
          exact (m.contains_set a v k).2 (.inl hpresent)
  | delete a =>
      show (m.delete a).contains k = !decide (a = k)
      rw [contains_eq, get?_delete]
      by_cases ha : a = k
      · simp only [ha, if_true, Option.isSome_none, decide_true, Bool.not_true]
      · rw [if_neg ha, ← contains_eq, hpresent, decide_eq_false ha, Bool.not_false]
  | deleteAll ks =>
      show (m.deleteAll ks).contains k = !decide (k ∈ ks)
      rw [contains_eq, get?_deleteAll]
      by_cases hk : k ∈ ks
      · simp only [hk, if_true, Option.isSome_none, decide_true, Bool.not_true]
      · rw [if_neg hk, ← contains_eq, hpresent, decide_eq_false hk, Bool.not_false]
  | clear =>
      show m.clear.contains k = false
      rw [contains_eq, get?_clear, Option.isSome_none]
  | get | contains | size | limit | keys | entries | walk => exact hpresent

theorem size_step_lt {op : BoundedOp κ ν} {k : κ} (hpresent : m.contains k = true) (hremoves : op.removes k = true) :
    (op.step m).2.size < m.size := by
  have habsent : (op.step m).2.contains k = false := by rw [contains_step hpresent, hremoves]; rfl
  refine Table.size_lt_of_contains (fun a ha => ?_) habsent hpresent
  have hleft : (op.step m).2.contains a = true := ha
  rw [contains_eq, get?_step_of_removes hremoves] at hleft
  split at hleft
  · cases hleft
  · exact (m.contains_eq a).trans hleft

/-! ## A map with a limit -/

theorem showsOneMap (m : Bounded τ) : m.ShowsOneMap where
  contains := m.contains_eq
  keys := Table.mem_keys_iff m.table
  entries := LawfulTable.mem_toList m.table
  distinct := ⟨LawfulTable.nodup_keys m.table, Table.nodup_toList m.table⟩
  size := ⟨Table.length_keys m.table, LawfulTable.length_toList m.table⟩
  visits decide := visitsUntilStop_walk decide m.toList

theorem keepsLimit (hwithin : m.WithinLimit) (hlimit : m.limit = if limit = 0 then none else some limit) :
    m.KeepsLimit limit where
  within hpos := hwithin limit (hlimit.trans (if_neg (Nat.ne_of_gt hpos)))
  leaves op k hpresent := contains_step hpresent op
  changes k v hpresent a := by simp only [get?_set, takes_of_present hpresent, and_true]
  adds k v habsent hroom a := by
    have hfull := (hasRoom_iff hlimit).1 hroom
    simp only [get?_set, takes_of_absent habsent, hfull, Bool.not_false, and_true]
  drops k v habsent hroom := set_of_not_takes (takes_eq_false_iff.2 ⟨habsent, (not_hasRoom_iff hlimit).1 hroom⟩) v
  batch ks v a := m.get?_setAll ks v a
  dropsOfBatch ks v a ha hdropped := by
    rw [not_hasRoom_iff ((m.limit_setAll ks v).trans hlimit)]
    exact isFull_of_dropped ha hdropped
  keepsPresent k v old hget := setIfAbsent_of_present hget v
  addsAbsent k v habsent hroom := by
    rw [setIfAbsent_of_absent (contains_eq_false_iff.1 habsent), (hasRoom_iff hlimit).1 hroom, Bool.not_false]
  dropsAbsent k v habsent hroom := by
    have hfull := (not_hasRoom_iff hlimit).1 hroom
    rw [setIfAbsent_of_absent (contains_eq_false_iff.1 habsent), hfull, Bool.not_true,
      set_of_not_takes (takes_eq_false_iff.2 ⟨habsent, hfull⟩)]
  reuses op k hpresent hremoves a v habsent := by
    have hroom : (op.step m).2.isFull = false := isFull_eq_false_iff.2 fun most hmost =>
      Nat.lt_of_lt_of_le (size_step_lt hpresent hremoves) (hwithin most ((BoundedOp.limit_step m op).symm.trans hmost))
    refine ⟨?_, ?_⟩
    · rw [get?_set, takes_of_absent habsent, hroom, if_pos ⟨rfl, rfl⟩]
    · rw [setIfAbsent_of_absent (contains_eq_false_iff.1 habsent), hroom, Bool.not_false]

/-- After any run on a map made for at most so many entries: the map is within its limit, takes a new key just if there is room,
can change what it has, loses it by taking it out only, and shows itself alike in all that can be asked. -/
theorem kept_within_limit (hmade : m₀.MadeFor limit) (ops : List (BoundedOp κ ν)) :
    (BoundedOp.run m₀ ops).2.KeepsLimit limit ∧ (BoundedOp.run m₀ ops).2.ShowsOneMap := by
  have hlimit := (BoundedOp.limit_run m₀ ops).trans hmade.limit_eq
  exact ⟨keepsLimit (hmade.withinLimit.run ops) hlimit, showsOneMap _⟩

/-- A map of two entries that has dropped a third key, by itself and in a batch, and has had one of the two changed. When that
one is taken out, the third finds room. -/
theorem room_used_again :
    let ops : List (BoundedOp Nat String) := [.set 1 "a", .setAll [2, 3] "b", .setIfAbsent 3 "c", .set 1 "d"]
    let m : Bounded (EntryList Nat String) := (BoundedOp.run (.withLimit 2) ops).2
    (withLimit 2 : Bounded (EntryList Nat String)).MadeFor 2 ∧ m.size ≤ 2 ∧ m.contains 1 = true ∧
      m.setIfAbsent 3 "e" = (("e", false), m) ∧ (m.delete 1).setIfAbsent 3 "e" = (("e", true), (m.delete 1).set 3 "e") ∧
      m.ShowsOneMap := by
  intro ops m
  have hmade : (withLimit 2 : Bounded (EntryList Nat String)).MadeFor 2 := .withLimit 2
  obtain ⟨hkeeps, hshows⟩ := kept_within_limit hmade ops
  have hpresent : m.contains 1 = true := by decide
  refine ⟨hmade, hkeeps.within (by decide), hpresent, ?_, ?_, hshows⟩
  · exact hkeeps.dropsAbsent 3 "e" (by decide) (by decide)
  · exact (hkeeps.reuses (.delete 1) 1 hpresent rfl 3 "e" (by decide)).2

end Bounded
end ShardStore
