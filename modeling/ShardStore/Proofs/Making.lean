import Mathlib.Data.UInt
import ShardStore.Config.Basic
import ShardStore.Hash.Digest
import ShardStore.Table.HashTable

/-!
# What is granted is made

On the way to the sizes of a map nothing is divided by zero, and every number fits in a word. So a map is made just if there can be
blocks for its slots and for their entries.
-/

namespace ShardStore

/-! ## Arithmetic in words -/

section

variable {a b : Nat}

theorem sum?_of_lt (hlt : a + b < UInt64.size) : sum? a b = .ok (a + b) := if_pos hlt

theorem quotient?_of_pos (hb : 0 < b) : quotient? a b = .ok (a / b) := if_neg hb.ne'

/-- A quotient is rounded up by one just if something is left over. -/
theorem roundedUp_eq (hb : 0 < b) : (a + b - 1) / b = if a % b = 0 then a / b else a / b + 1 := by
  have hparts : a + b - 1 = a % b + b - 1 + b * (a / b) := by
    have := Nat.mod_add_div a b
    omega
  rw [hparts, Nat.add_mul_div_left _ _ hb]
  split
  · next hzero => rw [hzero, Nat.zero_add, Nat.div_eq_of_lt (Nat.sub_lt hb Nat.one_pos), Nat.zero_add]
  · next hleft =>
      have hlt := Nat.mod_lt a hb
      rw [Nat.div_eq_of_lt_le (k := 1) (by omega) (by omega), Nat.add_comm]

theorem quotientUp?_of_pos (hb : 0 < b) (ha : a < UInt64.size) : quotientUp? a b = .ok ((a + b - 1) / b) := by
  rw [quotientUp?, quotient?_of_pos hb, roundedUp_eq hb]
  change (if a % b = 0 then Except.ok (a / b) else sum? (a / b) 1) = _
  split
  · rfl
  · next hleft =>
      have hpos : 0 < a := Nat.pos_of_ne_zero fun hzero => hleft (by rw [hzero, Nat.zero_mod])
      have hone : b ≠ 1 := fun hone => hleft (by rw [hone, Nat.mod_one])
      have hless : a / b < a := Nat.div_lt_self hpos (by omega)
      exact sum?_of_lt (by omega)

end

/-! ## Memory -/

/-- What is made where it is granted, with a property. Where it is not, nothing but the size of a block is the fault. -/
structure MadeIf {α : Type} (granted : Prop) (P : α → Prop) (made : Except MakeFault α) : Prop where
  done : granted → ∃ a, made = .ok a ∧ P a
  fault : ¬granted → ∃ f, made = .error (.memory f)

section

variable {α β : Type} {granted : Prop} {P Q : α → Prop} {made : Except MakeFault α} {a : α} {count bytes : Nat}

theorem MadeIf.imp (h : MadeIf granted P made) (hPQ : ∀ a, P a → Q a) : MadeIf granted Q made where
  done hgranted :=
    let ⟨a, hmade, ha⟩ := h.done hgranted
    ⟨a, hmade, hPQ a ha⟩
  fault := h.fault

theorem MadeIf.eq_ok (h : MadeIf granted (· = a) made) (hgranted : granted) : made = .ok a := by
  obtain ⟨_, hmade, rfl⟩ := h.done hgranted
  exact hmade

theorem MadeIf.map (h : MadeIf granted (· = a) made) (f : α → β) : MadeIf granted (· = f a) (made.map f) where
  done hgranted := ⟨f a, by rw [h.eq_ok hgranted]; rfl, rfl⟩
  fault hdenied := by
    obtain ⟨fault, hmade⟩ := h.fault hdenied
    exact ⟨fault, by rw [hmade]; rfl⟩

theorem MadeIf.row (h : MadeIf granted (· = a) made) :
    MadeIf (count * bytes ≤ mostBytes ∧ granted) (· = Vector.replicate count a) (row? count bytes made) where
  done := by
    rintro ⟨hblock, hgranted⟩
    exact ⟨_, by rw [row?, if_pos hblock, h.eq_ok hgranted]; rfl, rfl⟩
  fault hdenied := by
    rw [row?]
    split
    · next hblock =>
        obtain ⟨fault, hmade⟩ := h.fault fun hgranted => hdenied ⟨hblock, hgranted⟩
        exact ⟨fault, by rw [hmade]; rfl⟩
    · exact ⟨.array, rfl⟩

theorem Table.madeIf_make? {τ κ ν : Type} [Table τ κ ν] [Footprint τ] (hint : Nat) :
    MadeIf (Footprint.room τ hint ≤ mostBytes) (· = (withCapacity hint : τ)) (make? hint) where
  done hroom := ⟨_, if_pos hroom, rfl⟩
  fault hroom := ⟨_, if_neg hroom⟩

end

/-! ## Maps -/

theorem atLeastOne_eq_max (n : UInt16) : atLeastOne n = max n 1 := by
  rw [← UInt16.toNat_inj, UInt16.toNat_max, atLeastOne]
  split
  · next hzero => rw [hzero]; rfl
  · next hpos => exact (Nat.max_eq_left (UInt16.lt_iff_toNat_lt.1 (UInt16.pos_iff_ne_zero.2 hpos))).symm

theorem atLeastOneBucket_eq_max (n : UInt64) : atLeastOneBucket n = max n 1 := by
  rw [← UInt64.toNat_inj, UInt64.toNat_max, atLeastOneBucket]
  split
  · next hzero => rw [hzero]; rfl
  · next hpos => exact (Nat.max_eq_left (UInt64.lt_iff_toNat_lt.1 (UInt64.pos_iff_ne_zero.2 hpos))).symm

theorem atLeastOneBucket_of_pos {n : UInt64} (hn : 0 < n) : atLeastOneBucket n = n :=
  if_neg (UInt64.pos_iff_ne_zero.1 hn)

theorem toNat_atLeastOneBucket (n : UInt64) : (atLeastOneBucket n).toNat = max n.toNat 1 := by
  rw [atLeastOneBucket_eq_max, UInt64.toNat_max, UInt64.toNat_one]

namespace Sharded

variable {τ : Type} [Footprint τ]

/-- There can be a block for the slots of the map, and one for the entries of each slot. -/
def Granted (τ : Type) [Footprint τ] (hint : Nat) (n : UInt16) : Prop :=
  ((atLeastOne n).toNat + 1) * slotBytes τ ≤ mostBytes ∧ Footprint.room τ (share hint (atLeastOne n)) ≤ mostBytes

instance (hint : Nat) (n : UInt16) : Decidable (Granted τ hint n) := inferInstanceAs (Decidable (_ ∧ _))

/-- The map that is made has the slots that it asks for. -/
theorem madeIf_make? [Table τ Hash UInt64] (hint : UInt64) (n : UInt16) :
    MadeIf (Granted τ hint.toNat n) (· = withBuckets hint.toNat n) (make? hint n : Except MakeFault (Sharded τ)) := by
  have hpos : 0 < (atLeastOne n).toNat := UInt16.lt_iff_toNat_lt.1 (atLeastOne_pos n)
  have hcount : (atLeastOne n).toNat + 1 < UInt64.size := Nat.lt_trans (Nat.succ_lt_succ (atLeastOne n).toNat_lt) (by decide)
  have hslots := ((Table.madeIf_make? (τ := τ) (share hint.toNat (atLeastOne n))).map Store.mk).map some
  rw [make?, quotientUp?_of_pos hpos hint.toNat_lt, sum?_of_lt hcount]
  exact hslots.row.map fun slots => (⟨atLeastOne n, atLeastOne_pos n, slots⟩ : Sharded τ)

end Sharded

namespace CountedShards

variable {τ : Type} [Footprint τ]

/-- There can be a block for the stores of the map, and one for the entries of each store. -/
def Granted (τ : Type) [Footprint τ] (hint : Nat) (n : UInt64) : Prop :=
  ((atLeastOneBucket n).toNat + 1) * Counted.bytes τ ≤ mostBytes ∧
    Footprint.room τ (share hint (atLeastOneBucket n)) ≤ mostBytes

instance (hint : Nat) (n : UInt64) : Decidable (Granted τ hint n) := inferInstanceAs (Decidable (_ ∧ _))

/-- The map that is made has the stores that it asks for. -/
theorem madeIf_make? [Table τ UInt64 UInt64] (hint n : UInt64) :
    MadeIf (Granted τ hint.toNat n) (· = withBuckets hint.toNat n) (make? hint n : Except MakeFault (CountedShards τ)) := by
  have hpos : 0 < (atLeastOneBucket n).toNat := UInt64.lt_iff_toNat_lt.1 (atLeastOneBucket_pos n)
  have hstores := (Table.madeIf_make? (τ := τ) (share hint.toNat (atLeastOneBucket n))).map (Counted.mk · 0)
  rw [make?, quotient?_of_pos hpos]
  exact hstores.row.map fun stores => (⟨atLeastOneBucket n, atLeastOneBucket_pos n, stores⟩ : CountedShards τ)

end CountedShards

theorem Bounded.madeIf_make? {τ κ ν : Type} [Table τ κ ν] [Footprint τ] (limit : Nat) :
    MadeIf (Footprint.room τ limit ≤ mostBytes) (· = (withLimit limit : Bounded τ)) (make? limit) :=
  (Table.madeIf_make? limit).map (Bounded.mk · (if limit = 0 then none else some limit))

namespace Config

theorem Split.madeIf_make? {τ : Type} [Table τ Hash UInt64] [Footprint τ] (s : Split) :
    MadeIf (Sharded.Granted τ s.length.toNat (s.buckets.getD defaultBuckets)) (· = (s.make : Sharded τ)) s.make? :=
  Sharded.madeIf_make? _ _

theorem Synced.madeIf_make? {τ κ ν : Type} [Table τ κ ν] [Footprint τ] (s : Synced) :
    MadeIf (Footprint.room τ s.limit.toNat ≤ mostBytes) (· = (s.make : Bounded τ)) s.make? :=
  Bounded.madeIf_make? _

end Config

/-! ## Hash tables -/

theorem Slots.countFor_le {keys bits : Nat} (hkeys : keys * 8 < 7 * 2 ^ bits) (hbits : 4 ≤ bits) : countFor keys ≤ 2 ^ bits := by
  have hmost : 2 ^ 4 ≤ 2 ^ bits := Nat.pow_le_pow_right Nat.two_pos hbits
  simp only [countFor]
  split_ifs
  case neg hlarge =>
    have hlog : (keys * 8 / 7 - 1).log2 < bits := (Nat.log2_lt (by omega)).2 (by omega)
    rw [Nat.one_shiftLeft]
    exact Nat.pow_le_pow_right Nat.two_pos hlog
  all_goals omega

/-- Up to a very large number of entries, hash tables are made. -/
theorem room_hashMap_le {κ ν : Type} [BEq κ] [Hashable κ] [ByteSize κ] [ByteSize ν] {hint : Nat} (hentry : entryBytes κ ν < 63)
    (hhint : hint < 2 ^ 56) : Footprint.room (Std.HashMap κ ν) hint ≤ mostBytes := by
  have hcount : Slots.countFor hint ≤ 2 ^ 57 := Slots.countFor_le (by omega) (by decide)
  have hblock : Slots.countFor hint * (entryBytes κ ν + 1) ≤ 2 ^ 57 * 63 := Nat.mul_le_mul hcount hentry
  change (if hint = 0 then 0 else _) ≤ _
  split
  · exact Nat.zero_le _
  · rw [mostBytes, Slots.window]
    omega

theorem Sharded.granted_of_lt {hint : Nat} (hhint : hint < 2 ^ 56) (n : UInt16) :
    Granted (Std.HashMap Hash UInt64) hint n := by
  have hn := (atLeastOne n).toNat_lt
  have hpos : 0 < (atLeastOne n).toNat := UInt16.lt_iff_toNat_lt.1 (atLeastOne_pos n)
  have hshare : share hint (atLeastOne n) < 2 ^ 56 := (Nat.div_lt_iff_lt_mul hpos).2 (by omega)
  refine ⟨?_, room_hashMap_le (by decide) hshare⟩
  change ((atLeastOne n).toNat + 1) * 48 ≤ mostBytes
  rw [mostBytes]
  omega

theorem CountedShards.granted_of_lt {hint : Nat} (hhint : hint < 2 ^ 56) {n : UInt64} (hn : n.toNat < 2 ^ 57) :
    Granted (Std.HashMap UInt64 UInt64) hint n := by
  have hcount : (atLeastOneBucket n).toNat ≤ 2 ^ 57 := by
    rw [toNat_atLeastOneBucket]
    omega
  have hshare : share hint (atLeastOneBucket n) < 2 ^ 56 := Nat.lt_of_le_of_lt (Nat.div_le_self _ _) hhint
  refine ⟨?_, room_hashMap_le (by decide) hshare⟩
  change ((atLeastOneBucket n).toNat + 1) * 40 ≤ mostBytes
  rw [mostBytes]
  omega

end ShardStore
