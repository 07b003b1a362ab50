import ShardStore.Sharded.Basic

/-!
# Slots of a sharded map

A sharded map is seen through its slots: what every operation on one slot answers and leaves follows from the store in
that slot, and all other slots stay as they are.
-/

namespace ShardStore.Sharded

variable {τ : Type} {m : Sharded τ} {b : UInt16} {s : Store τ}

/-- The map with something else in one slot. -/
def withSlot (m : Sharded τ) (b : UInt16) (o : Option (Store τ)) : Sharded τ :=
  { m with slots := m.slots.setIfInBounds b.toNat o }

/-! ## Looking at slots -/

theorem lt_slots_iff (m : Sharded τ) (b : UInt16) : b.toNat < m.buckets.toNat + 1 ↔ b ≤ m.buckets := by
  rw [UInt16.le_iff_toNat_le, Nat.lt_succ_iff]

theorem slot?_of_lt (hlt : b.toNat < m.buckets.toNat + 1) : m.slot? b = m.slots[b.toNat] := by
  rw [slot?, Vector.getElem?_eq_getElem hlt, Option.join_some]

theorem slot?_of_not_le (hb : ¬b ≤ m.buckets) : m.slot? b = none := by
  rw [slot?, Vector.getElem?_eq_none (Nat.le_of_not_lt fun hlt => hb ((m.lt_slots_iff b).1 hlt))]
  rfl

theorem le_buckets (hs : m.slot? b = some s) : b ≤ m.buckets := by
  by_cases hb : b ≤ m.buckets
  · exact hb
  · rw [slot?_of_not_le hb] at hs
    cases hs

theorem slot?_withSlot (m : Sharded τ) (b : UInt16) (o : Option (Store τ)) (c : UInt16) :
    (m.withSlot b o).slot? c = if b = c then if b ≤ m.buckets then o else none else m.slot? c := by
  change ((m.slots.setIfInBounds b.toNat o)[c.toNat]?).join = _
  simp only [Vector.getElem?_setIfInBounds, UInt16.toNat_inj, m.lt_slots_iff]
  split
  · split <;> rfl
  · rfl

theorem slot?_withSlot_of_le (hb : b ≤ m.buckets) (o : Option (Store τ)) (c : UInt16) :
    (m.withSlot b o).slot? c = if b = c then o else m.slot? c := by
  rw [slot?_withSlot, if_pos hb]

theorem toNat_ofNat {i : Nat} (hi : i < m.buckets.toNat + 1) : (UInt16.ofNat i).toNat = i := by
  have hsmall := m.buckets.toNat_lt
  rw [UInt16.toNat_ofNat', Nat.mod_eq_of_lt (by omega)]

theorem slot?_ofNat {i : Nat} (hi : i < m.buckets.toNat + 1) : m.slot? (UInt16.ofNat i) = m.slots[i] := by
  rw [slot?, toNat_ofNat hi, Vector.getElem?_eq_getElem hi, Option.join_some]

/-- A map is known by its bucket count and its slots. -/
theorem ext_slots {m m' : Sharded τ} (hbuckets : m.buckets = m'.buckets) (hslots : ∀ b, m.slot? b = m'.slot? b) :
    m = m' := by
  have hat : ∀ i (hi : i < m.buckets.toNat + 1) (hi' : i < m'.buckets.toNat + 1), m.slots[i] = m'.slots[i] :=
    fun i hi hi' => by rw [← slot?_ofNat hi, hslots, slot?_ofNat hi']
  obtain ⟨n, hn, slots⟩ := m
  obtain ⟨n', hn', slots'⟩ := m'
  obtain rfl : n = n' := hbuckets
  congr 1
  exact Vector.ext fun i hi => hat i hi hi

theorem withSlot_eq_self {o : Option (Store τ)} (hb : m.slot? b = o) : m.withSlot b o = m := by
  refine ext_slots rfl fun c => ?_
  rw [slot?_withSlot]
  split
  · next hc =>
      subst hc
      split
      · exact hb.symm
      · next hle => exact (slot?_of_not_le hle).symm
  · rfl

/-! ## Working on slots -/

theorem set_eq_withSlot (hlt : b.toNat < m.buckets.toNat + 1) (o : Option (Store τ)) :
    ({ m with slots := m.slots.set b.toNat o hlt } : Sharded τ) = m.withSlot b o := by
  unfold withSlot
  congr 1
  refine Vector.ext fun i hi => ?_
  rw [Vector.getElem_set, Vector.getElem_setIfInBounds]

theorem onSlot_eq {α : Type} (m : Sharded τ) (b : UInt16) (work : Store τ → α × Store τ) :
    m.onSlot b work =
      match m.slot? b with
      | none => (none, m)
      | some s => (some (work s).1, m.withSlot b (some (work s).2)) := by
  by_cases hb : b ≤ m.buckets
  · have hlt := (m.lt_slots_iff b).2 hb
    have hslot := slot?_of_lt hlt
    rw [onSlot, dif_pos hlt]
    simp only [workAt_fst, workAt_snd, Fin.getElem_fin, set_eq_withSlot, ← hslot]
    cases hs : m.slot? b with
    | none => simp only [withSlot_eq_self hs]
    | some s => rfl
  · rw [slot?_of_not_le hb, onSlot, dif_neg fun hlt => hb ((m.lt_slots_iff b).1 hlt)]

theorem tryOnSlot_eq (m : Sharded τ) (b : UInt16) (work : Store τ → Outcome × Store τ) :
    m.tryOnSlot b work =
      match m.slot? b with
      | none => (.error (m.missing b), m)
      | some s => ((work s).1, m.withSlot b (some (work s).2)) := by
  rw [tryOnSlot, onSlot_eq]
  cases m.slot? b <;> rfl

theorem removeBucket_eq (m : Sharded τ) (b : UInt16) : m.removeBucket b = (m.slot? b, m.withSlot b none) := by
  by_cases hb : b ≤ m.buckets
  · have hlt := (m.lt_slots_iff b).2 hb
    have htaken : takeOut m.slots ⟨b.toNat, hlt⟩ none = (m.slots[b.toNat], m.slots.set b.toNat none) := by
      simp [takeOut, Vector.swapAt]
    rw [removeBucket, dif_pos hlt, htaken, slot?_of_lt hlt, ← set_eq_withSlot hlt]
  · rw [slot?_of_not_le hb, withSlot_eq_self (slot?_of_not_le hb), removeBucket,
      dif_neg fun hlt => hb ((m.lt_slots_iff b).1 hlt)]

end ShardStore.Sharded
