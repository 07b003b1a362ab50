import Mathlib.Data.Nat.Digits.Defs
import ShardStore.Number.Integer

/-!
# What texts are numbers

The texts that read as a natural number: decimal digits without leading zeros, or digits of another base behind its letter, with
a plus sign or none. Each writes one number.
-/

namespace ShardStore

/-! ## Digits -/

/-- The characters are digits of a base, at least one, and stand for a number, the high ones first. -/
def Spells (base : Nat) (cs : List Char) (n : Nat) : Prop :=
  cs ≠ [] ∧ ∃ ds : List Nat, cs.map digitValue? = ds.map some ∧ (∀ d ∈ ds, d < base) ∧ n = Nat.ofDigits base ds.reverse

theorem baseDigit?_eq_some_iff {base : Nat} {c : Char} {d : Nat} :
    baseDigit? base c = some d ↔ digitValue? c = some d ∧ d < base := by
  rw [baseDigit?, Option.filter_eq_some_iff, decide_eq_true_eq]

theorem foldlM_digits_eq_some_iff {base start n : Nat} {cs : List Char} :
    cs.foldlM (fun n c => (baseDigit? base c).map (n * base + ·)) start = some n ↔
      ∃ ds : List Nat, cs.map digitValue? = ds.map some ∧ (∀ d ∈ ds, d < base) ∧
        n = start * base ^ ds.length + Nat.ofDigits base ds.reverse := by
  induction cs generalizing start with
  | nil =>
      constructor
      · intro hread
        exact ⟨[], rfl, List.forall_mem_nil _, by simpa using (Option.some.inj hread).symm⟩
      · rintro ⟨ds, hds, -, rfl⟩
        obtain rfl : ds = [] := List.map_eq_nil_iff.1 hds.symm
        simp
  | cons c cs ih =>
      rw [List.foldlM_cons]
      constructor
      · intro hread
        obtain ⟨next, hnext, hrest⟩ := Option.bind_eq_some_iff.1 hread
        obtain ⟨d, hd, rfl⟩ := Option.map_eq_some_iff.1 hnext
        obtain ⟨ds, hds, hsmall, rfl⟩ := ih.1 hrest
        obtain ⟨hvalue, hlt⟩ := baseDigit?_eq_some_iff.1 hd
        refine ⟨d :: ds, by rw [List.map_cons, List.map_cons, hvalue, hds], List.forall_mem_cons.2 ⟨hlt, hsmall⟩, ?_⟩
        rw [List.reverse_cons, Nat.ofDigits_append, List.length_reverse, Nat.ofDigits_singleton, List.length_cons]
        ring
      · rintro ⟨ds, hds, hsmall, rfl⟩
        obtain ⟨d, ds, rfl, hvalue, hrest⟩ := List.map_eq_cons_iff.1 hds.symm
        obtain ⟨hlt, hsmall⟩ := List.forall_mem_cons.1 hsmall
        refine Option.bind_eq_some_iff.2 ⟨start * base + d, ?_, ih.2 ⟨ds, hrest.symm, hsmall, ?_⟩⟩
        · rw [baseDigit?_eq_some_iff.2 ⟨hvalue.symm, hlt⟩, Option.map_some]
        · rw [List.reverse_cons, Nat.ofDigits_append, List.length_reverse, Nat.ofDigits_singleton, List.length_cons]
          ring

theorem digitsValue?_eq_some_iff {base n : Nat} {cs : List Char} : digitsValue? base cs = some n ↔ Spells base cs n := by
  rw [digitsValue?, Spells]
  by_cases hempty : cs = []
  · simp [hempty]
  · simp only [List.isEmpty_iff, hempty, if_false, foldlM_digits_eq_some_iff, Nat.zero_mul, Nat.zero_add, ne_eq,
      not_false_eq_true, true_and]

theorem Spells.mem {base n : Nat} {cs : List Char} (hspells : Spells base cs n) {c : Char} (hc : c ∈ cs) :
    ∃ d, digitValue? c = some d ∧ d < base := by
  obtain ⟨-, ds, hds, hsmall, -⟩ := hspells
  have hmapped : digitValue? c ∈ ds.map some := hds ▸ List.mem_map_of_mem hc
  obtain ⟨d, hd, hvalue⟩ := List.mem_map.1 hmapped
  exact ⟨d, hvalue.symm, hsmall d hd⟩

theorem digitValue?_of_isDigit {c : Char} {d : Nat} (hvalue : digitValue? c = some d) (hd : d < 10) : c.isDigit = true := by
  rw [digitValue?] at hvalue
  split at hvalue
  · next hdigit => exact hdigit
  · exfalso
    -- a letter stands for ten or more
    split at hvalue
    · obtain rfl := Option.some.inj hvalue
      exact absurd hd (Nat.not_lt.2 (Nat.le_add_left 10 _))
    · split at hvalue
      · obtain rfl := Option.some.inj hvalue
        exact absurd hd (Nat.not_lt.2 (Nat.le_add_left 10 _))
      · cases hvalue

/-! ## Notations -/

/-- A text that is digits behind the letter of a base. -/
def SpellsMarked (cs : List Char) (n : Nat) : Prop := ∃ m ∈ baseMarks, ∃ digits, cs = m.1 ++ digits ∧ Spells m.2 digits n

/-- The number that a text writes without a sign: decimal and without leading zeros, or in another base. -/
inductive WritesUnsigned : List Char → Nat → Prop
  | decimal {cs : List Char} {n : Nat} : Spells 10 cs n → (cs.head? = some '0' → cs = ['0']) → WritesUnsigned cs n
  | marked {cs : List Char} {n : Nat} : SpellsMarked cs n → WritesUnsigned cs n

/-- The natural number that a text writes, with a plus sign or none. -/
inductive WritesNatural : List Char → Nat → Prop
  | bare {cs : List Char} {n : Nat} : WritesUnsigned cs n → WritesNatural cs n
  | plus {cs : List Char} {n : Nat} : WritesUnsigned cs n → WritesNatural ('+' :: cs) n

theorem afterStart?_eq_some_iff {start text rest : List Char} : afterStart? start text = some rest ↔ text = start ++ rest := by
  rw [afterStart?]
  split
  · next hprefix =>
      obtain ⟨tail, rfl⟩ := List.isPrefixOf_iff_prefix.1 hprefix
      rw [List.drop_left, Option.some_inj, List.append_cancel_left_eq]
  · next hprefix =>
      refine iff_of_false (fun hnone => nomatch hnone) ?_
      rintro rfl
      exact hprefix (List.isPrefixOf_iff_prefix.2 (List.prefix_append start rest))

theorem marks_inj {m m' : List Char × Nat} (hm : m ∈ baseMarks) (hm' : m' ∈ baseMarks) {cs cs' : List Char}
    (heq : m.1 ++ cs = m'.1 ++ cs') : m = m' ∧ cs = cs' := by
  have hlength : ∀ m ∈ baseMarks, m.1.length = 2 := by decide
  have hinj : ∀ m ∈ baseMarks, ∀ m' ∈ baseMarks, m.1 = m'.1 → m = m' := by decide
  obtain ⟨hmark, hrest⟩ := List.append_inj heq ((hlength m hm).trans (hlength m' hm').symm)
  exact ⟨hinj m hm m' hm' hmark, hrest⟩

/-- At most one of the bases can be meant, so the order in which they are tried does not matter. -/
theorem findSome?_marks_eq_some_iff {cs : List Char} {n : Nat} :
    baseMarks.findSome? (fun (mark, base) => (afterStart? mark cs).bind (digitsValue? base)) = some n ↔
      SpellsMarked cs n := by
  have hone : ∀ m ∈ baseMarks, ∀ k, (afterStart? m.1 cs).bind (digitsValue? m.2) = some k ↔
      ∃ digits, cs = m.1 ++ digits ∧ Spells m.2 digits k := fun m _ k => by
    simp only [Option.bind_eq_some_iff, afterStart?_eq_some_iff, digitsValue?_eq_some_iff]
  constructor
  · intro hfound
    obtain ⟨m, hm, hvalue⟩ := List.exists_of_findSome?_eq_some hfound
    exact ⟨m, hm, (hone m hm n).1 hvalue⟩
  · rintro ⟨m, hm, digits, rfl, hspells⟩
    have hvalue := (hone m hm n).2 ⟨digits, rfl, hspells⟩
    have hsome := List.findSome?_isSome_iff (f := fun (mark, base) =>
      (afterStart? mark (m.1 ++ digits)).bind (digitsValue? base)).2 ⟨m, hm, congrArg Option.isSome hvalue⟩
    obtain ⟨k, hfound⟩ := Option.isSome_iff_exists.1 hsome
    obtain ⟨m', hm', hvalue'⟩ := List.exists_of_findSome?_eq_some hfound
    obtain ⟨digits', hsame, -⟩ := (hone m' hm' k).1 hvalue'
    obtain ⟨rfl, -⟩ := marks_inj hm hm' hsame
    exact hfound.trans (hvalue'.symm.trans hvalue)

/-- The letter of a base is no decimal digit. -/
theorem SpellsMarked.not_spells {cs : List Char} {n k : Nat} (hmarked : SpellsMarked cs n) : ¬Spells 10 cs k := by
  intro hspells
  have hletter : ∀ m ∈ baseMarks, ∃ c ∈ m.1, ∀ d, digitValue? c = some d → ¬d < 10 := by
    simp [baseMarks, digitValue?]
  obtain ⟨m, hm, digits, rfl, -⟩ := hmarked
  obtain ⟨c, hc, hnone⟩ := hletter m hm
  obtain ⟨d, hvalue, hd⟩ := hspells.mem (List.mem_append_left digits hc)
  exact hnone d hvalue hd

theorem magnitude?_eq_some_iff {limit n : Nat} {cs : List Char} :
    magnitude? limit cs = some n ↔ (SpellsMarked cs n ∨ Spells 10 cs n) ∧ n < limit := by
  rw [magnitude?, Option.filter_eq_some_iff, decide_eq_true_eq, Option.or_eq_some_iff, findSome?_marks_eq_some_iff,
    digitsValue?_eq_some_iff]
  refine and_congr_left fun _ => or_congr_right ⟨fun h => h.2, fun hspells => ⟨?_, hspells⟩⟩
  rw [Option.eq_none_iff_forall_ne_some]
  exact fun k hk => (findSome?_marks_eq_some_iff.1 hk).not_spells hspells

/-! ## Leading zeros -/

theorem hasLeadingZeros_of_marked {cs : List Char} {n : Nat} (hmarked : SpellsMarked cs n) :
    hasLeadingZeros ('+' :: cs) = false := by
  obtain ⟨m, hm, digits, rfl, -⟩ := hmarked
  have hall : ∀ m ∈ baseMarks, hasLeadingZeros ('+' :: (m.1 ++ digits)) = false := by
    simp [baseMarks, hasLeadingZeros]
  exact hall m hm

theorem hasLeadingZeros_of_spells {cs : List Char} {n : Nat} (hspells : Spells 10 cs n) :
    hasLeadingZeros ('+' :: cs) = false ↔ (cs.head? = some '0' → cs = ['0']) := by
  have hdigits : ∀ c ∈ cs, c.isDigit = true := fun c hc =>
    have ⟨_, hvalue, hd⟩ := hspells.mem hc
    digitValue?_of_isDigit hvalue hd
  match cs with
  | [] => exact absurd rfl hspells.1
  | [c] => simp [hasLeadingZeros]
  | c :: d :: rest =>
      have hrest : (d :: rest).all Char.isDigit = true :=
        List.all_eq_true.2 fun e he => hdigits e (List.mem_cons_of_mem c he)
      by_cases hc : c = '0'
      · simp [hasLeadingZeros, hc, hrest]
      · simp [hasLeadingZeros, hc]

theorem unsigned_iff {limit n : Nat} {cs : List Char} :
    hasLeadingZeros ('+' :: cs) = false ∧ magnitude? limit cs = some n ↔ WritesUnsigned cs n ∧ n < limit := by
  rw [magnitude?_eq_some_iff]
  constructor
  · rintro ⟨hzeros, hmarked | hspells, hlt⟩
    · exact ⟨.marked hmarked, hlt⟩
    · exact ⟨.decimal hspells ((hasLeadingZeros_of_spells hspells).1 hzeros), hlt⟩
  · rintro ⟨hwrites, hlt⟩
    cases hwrites with
    | decimal hspells hzero => exact ⟨(hasLeadingZeros_of_spells hspells).2 hzero, .inr hspells, hlt⟩
    | marked hmarked => exact ⟨hasLeadingZeros_of_marked hmarked, .inl hmarked, hlt⟩

/-! ## Signs -/

theorem head_of_spells {c : Char} {cs : List Char} {n : Nat} (hspells : SpellsMarked (c :: cs) n ∨ Spells 10 (c :: cs) n) :
    (digitValue? c).isSome = true := by
  rcases hspells with ⟨m, hm, digits, heq, -⟩ | hspells
  · have hzero : ∀ m ∈ baseMarks, m.1.head? = some '0' := by decide
    have hhead := congrArg List.head? heq
    rw [List.head?_cons, List.head?_append, hzero m hm] at hhead
    obtain rfl : c = '0' := Option.some.inj hhead
    rfl
  · obtain ⟨d, hvalue, -⟩ := hspells.mem (List.mem_cons_self ..)
    rw [hvalue, Option.isSome_some]

theorem WritesUnsigned.spells {cs : List Char} {n : Nat} (hwrites : WritesUnsigned cs n) :
    SpellsMarked cs n ∨ Spells 10 cs n := by
  cases hwrites with
  | decimal hspells => exact .inr hspells
  | marked hmarked => exact .inl hmarked

theorem writesNatural_plus_iff {cs : List Char} {n : Nat} : WritesNatural ('+' :: cs) n ↔ WritesUnsigned cs n := by
  constructor
  · intro hwrites
    cases hwrites with
    | bare hwrites => cases head_of_spells hwrites.spells
    | plus hwrites => exact hwrites
  · exact .plus

theorem writesNatural_iff {text : List Char} {n : Nat} (hplus : text.head? ≠ some '+') :
    WritesNatural text n ↔ WritesUnsigned text n := by
  constructor
  · intro hwrites
    cases hwrites with
    | bare hwrites => exact hwrites
    | plus => exact absurd rfl hplus
  · exact .bare

theorem readUnsigned?_of_head {limit : Nat} {text : List Char} (hplus : text.head? ≠ some '+') :
    readUnsigned? limit text = if hasLeadingZeros text then none else magnitude? limit text := by
  rw [readUnsigned?]
  rintro digits rfl
  exact hplus rfl

/-- A minus sign is no digit, whatever follows it. -/
theorem leadingZeros_and_magnitude_iff {limit n : Nat} {text : List Char} (hplus : text.head? ≠ some '+') :
    hasLeadingZeros text = false ∧ magnitude? limit text = some n ↔
      hasLeadingZeros ('+' :: text) = false ∧ magnitude? limit text = some n := by
  refine and_congr_left fun hmagnitude => ?_
  match text with
  | [] => exact iff_of_true rfl rfl
  | c :: cs =>
      have hc : c ≠ '+' := fun hc => hplus (congrArg some hc)
      have hminus : c ≠ '-' := by
        rintro rfl
        cases head_of_spells (magnitude?_eq_some_iff.1 hmagnitude).1
      simp [hasLeadingZeros, hc, hminus]

theorem readUnsigned?_eq_some_iff {limit n : Nat} {text : List Char} :
    readUnsigned? limit text = some n ↔ WritesNatural text n ∧ n < limit := by
  by_cases hplus : text.head? = some '+'
  · obtain ⟨cs, rfl⟩ := List.head?_eq_some_iff.1 hplus
    rw [writesNatural_plus_iff, ← unsigned_iff]
    change (if hasLeadingZeros ('+' :: cs) then none else magnitude? limit cs) = some n ↔ _
    rw [Option.ite_none_left_eq_some, Bool.not_eq_true]
  · rw [writesNatural_iff hplus, ← unsigned_iff, readUnsigned?_of_head hplus, Option.ite_none_left_eq_some,
      Bool.not_eq_true, leadingZeros_and_magnitude_iff hplus]

/-! ## Numbers in their decimal digits -/

theorem Spells.snoc {base n d : Nat} {cs : List Char} {c : Char} (hspells : Spells base cs n) (hvalue : digitValue? c = some d)
    (hd : d < base) : Spells base (cs ++ [c]) (base * n + d) := by
  obtain ⟨-, ds, hds, hsmall, rfl⟩ := hspells
  refine ⟨by simp, ds ++ [d], by rw [List.map_append, List.map_append, hds, List.map_singleton, hvalue]; rfl, ?_, ?_⟩
  · exact List.forall_mem_append.2 ⟨hsmall, List.forall_mem_singleton.2 hd⟩
  · rw [List.reverse_append, List.reverse_singleton, List.singleton_append, Nat.ofDigits_cons, Nat.add_comm]

theorem digitValue?_digitChar {d : Nat} (hd : d < 10) : digitValue? d.digitChar = some d := by
  have hall : ∀ d < 10, digitValue? (Nat.digitChar d) = some d := by decide
  exact hall d hd

theorem spells_toDigits (n : Nat) : Spells 10 (Nat.toDigits 10 n) n := by
  induction n using Nat.strongRecOn with
  | ind n ih =>
      by_cases hn : n < 10
      · rw [Nat.toDigits_of_lt_base hn]
        exact ⟨List.cons_ne_nil _ _, [n], by simp [digitValue?_digitChar hn], by simpa using hn, by simp⟩
      · have hlast : n % 10 < 10 := Nat.mod_lt n (by decide)
        have hmore := (ih (n / 10) (by omega)).snoc (digitValue?_digitChar hlast) hlast
        rwa [← Nat.toDigits_of_base_le (by decide) (Nat.not_lt.1 hn), Nat.div_add_mod] at hmore

/-- Of the numbers in digits, only zero begins with a zero. -/
theorem eq_zero_of_head_toDigits {n : Nat} (hzero : (Nat.toDigits 10 n).head? = some '0') : n = 0 := by
  induction n using Nat.strongRecOn with
  | ind n ih =>
      by_cases hn : n < 10
      · rw [Nat.toDigits_of_lt_base hn, List.head?_cons, Option.some_inj] at hzero
        have hvalue := digitValue?_digitChar hn
        rw [hzero] at hvalue
        exact (Option.some.inj hvalue).symm
      · have hsmaller : n / 10 = 0 := by
          refine ih (n / 10) (by omega) ?_
          rw [Nat.toDigits_of_base_le (by decide) (Nat.not_lt.1 hn), List.head?_append] at hzero
          cases hfirst : (Nat.toDigits 10 (n / 10)).head? with
          | none => exact absurd (List.head?_eq_none_iff.1 hfirst) (spells_toDigits (n / 10)).1
          | some c => rwa [hfirst, Option.some_or] at hzero
        omega

theorem writesNatural_toString (n : Nat) : WritesNatural (toString n).toList n := by
  rw [Nat.toString_eq_repr, Nat.toList_repr]
  refine .bare (.decimal (spells_toDigits n) fun hzero => ?_)
  rw [eq_zero_of_head_toDigits hzero]
  rfl

end ShardStore
