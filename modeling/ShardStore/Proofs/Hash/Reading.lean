import ShardStore.Proofs.Hash.Text
import ShardStore.Text.Digits

/-!
# Texts that are no hash

A text is judged by its bytes: first by how many they are, then from left to right by the first that is no digit. If all are
digits, their pairs are the bytes of the hash, the last pair first.
-/

namespace ShardStore

variable {bytes bs : List UInt8} {b c high low : UInt8} {i j k : Nat}

/-! ## Digits and their places -/

/-- The value of a byte as a digit. -/
def digitOf? (b : UInt8) : Option Nat := digitValue? (Char.ofNat b.toNat)

theorem digitOf?_eq (b : UInt8) : digitOf? b = (hexValue? b).map UInt8.toNat := by
  have hall : ∀ k < 256, digitOf? (.ofNat k) = (hexValue? (.ofNat k)).map UInt8.toNat := by decide +kernel
  have hthis := hall b.toNat b.toNat_lt
  rwa [UInt8.ofNat_toNat] at hthis

/-- The number that is written by the two digits from a place on. -/
def pairAt? (bytes : List UInt8) (k : Nat) : Option Nat :=
  match bytes[k]?.bind digitOf?, bytes[k + 1]?.bind digitOf? with
  | some high, some low => some (16 * high + low)
  | _, _ => none

theorem pairAt?_cons_cons (high low : UInt8) (rest : List UInt8) (k : Nat) :
    pairAt? (high :: low :: rest) (k + 2) = pairAt? rest k := rfl

theorem pairAt?_zero {a d : UInt8} (ha : hexValue? high = some a) (hd : hexValue? low = some d) (rest : List UInt8) :
    pairAt? (high :: low :: rest) 0 = some (a * 16 + d).toNat := by
  have hhigh : digitOf? high = some a.toNat := by rw [digitOf?_eq, ha, Option.map_some]
  have hlow : digitOf? low = some d.toNat := by rw [digitOf?_eq, hd, Option.map_some]
  obtain ⟨-, hsmall, -⟩ := of_hexValue? ha
  obtain ⟨-, hsmall', -⟩ := of_hexValue? hd
  rw [toNat_mul_add hsmall hsmall', Nat.mul_comm]
  simp [pairAt?, hhigh, hlow]

theorem digits_of_pairAt? {n : Nat} (hpair : pairAt? bytes k = some n) (hb : bytes[j]? = some b) (hj : j = k ∨ j = k + 1) :
    digitOf? b ≠ none := by
  intro hnone
  rw [pairAt?] at hpair
  rcases hj with rfl | rfl
  · rw [hb, Option.bind_some, hnone] at hpair
    cases hpair
  · rw [hb, Option.bind_some, hnone] at hpair
    cases hhigh : bytes[k]?.bind digitOf? with
    | none => simp [hhigh] at hpair
    | some high => simp [hhigh] at hpair

/-- The bytes are what the digits write, two for each. -/
structure WritesBytes (digits bs : List UInt8) : Prop where
  length : digits.length = 2 * bs.length
  value : ∀ k, pairAt? digits (2 * k) = bs[k]?.map UInt8.toNat

theorem writesBytes_nil : WritesBytes [] [] where
  length := rfl
  value _ := rfl

theorem WritesBytes.cons {a d : UInt8} (h : WritesBytes bytes bs) (ha : hexValue? high = some a) (hd : hexValue? low = some d) :
    WritesBytes (high :: low :: bytes) ((a * 16 + d) :: bs) where
  length := by rw [List.length_cons, List.length_cons, List.length_cons, h.length, Nat.mul_succ]
  value k := by
    cases k with
    | zero => exact pairAt?_zero ha hd bytes
    | succ k => exact (pairAt?_cons_cons high low bytes (2 * k)).trans (h.value k)

theorem WritesBytes.digits (h : WritesBytes bytes bs) : ∀ b ∈ bytes, digitOf? b ≠ none := by
  intro b hb
  obtain ⟨j, hj, hget⟩ := List.mem_iff_getElem.1 hb
  have hlt : j / 2 < bs.length := by
    have := h.length
    omega
  have hpair := h.value (j / 2)
  rw [List.getElem?_eq_getElem hlt, Option.map_some] at hpair
  exact digits_of_pairAt? hpair (hget ▸ List.getElem?_eq_getElem hj) (by omega)

/-- The byte `b` at the place `k` is no digit, and all before it are. -/
structure FirstNonDigit (bytes : List UInt8) (k : Nat) (b : UInt8) : Prop where
  found : bytes[k]? = some b
  noDigit : digitOf? b = none
  first : ∀ j < k, ∀ c, bytes[j]? = some c → digitOf? c ≠ none

theorem FirstNonDigit.unique (h : FirstNonDigit bytes j b) (h' : FirstNonDigit bytes k c) : j = k ∧ b = c := by
  have hplace : j = k := by
    rcases Nat.lt_trichotomy j k with hlt | heq | hlt
    · exact absurd h.noDigit (h'.first j hlt b h.found)
    · exact heq
    · exact absurd h'.noDigit (h.first k hlt c h'.found)
  subst hplace
  exact ⟨rfl, Option.some.inj (h.found.symm.trans h'.found)⟩

theorem firstNonDigit_zero (hb : digitOf? b = none) (rest : List UInt8) : FirstNonDigit (b :: rest) 0 b where
  found := rfl
  noDigit := hb
  first _ hlt := absurd hlt (Nat.not_lt_zero _)

theorem FirstNonDigit.cons (h : FirstNonDigit bytes k b) (hc : digitOf? c ≠ none) : FirstNonDigit (c :: bytes) (k + 1) b where
  found := h.found
  noDigit := h.noDigit
  first j hlt d hd := by
    cases j with
    | zero =>
        obtain rfl := Option.some.inj hd
        exact hc
    | succ j => exact h.first j (Nat.lt_of_succ_lt_succ hlt) d hd

/-! ## Pairs from left to right -/

theorem digitOf?_ne_none {a : UInt8} (ha : hexValue? b = some a) : digitOf? b ≠ none := by
  rw [digitOf?_eq, ha]
  exact Option.some_ne_none _

theorem digitOf?_eq_none (hb : hexValue? b = none) : digitOf? b = none := by rw [digitOf?_eq, hb, Option.map_none]

theorem readDigit_of_none (hb : hexValue? b = none) (i : Nat) :
    readDigit i b = .error (.digit (Char.ofNat b.toNat) i) := by
  rw [readDigit, hb]

theorem readPairs_of_high (hhigh : hexValue? high = none) (i : Nat) (low : UInt8) (rest : List UInt8) :
    readPairs i (high :: low :: rest) = .error (.digit (Char.ofNat high.toNat) i) := by
  rw [readPairs, readDigit_of_none hhigh]
  rfl

theorem readPairs_of_low {a : UInt8} (ha : hexValue? high = some a) (hlow : hexValue? low = none) (i : Nat)
    (rest : List UInt8) : readPairs i (high :: low :: rest) = .error (.digit (Char.ofNat low.toNat) (i + 1)) := by
  rw [readPairs, readDigit_eq_ok_iff.2 ha, readDigit_of_none hlow]
  rfl

theorem readPairs_of_rest {a d : UInt8} (ha : hexValue? high = some a) (hd : hexValue? low = some d) (i : Nat)
    (rest : List UInt8) : readPairs i (high :: low :: rest) = (readPairs (i + 2) rest).map ((a * 16 + d) :: ·) := by
  rw [readPairs, readDigit_eq_ok_iff.2 ha, readDigit_eq_ok_iff.2 hd]
  cases readPairs (i + 2) rest <;> rfl

/-- Reading gives the numbers of all pairs, or it stops at the first byte that is no digit. -/
theorem readPairs_ends (heven : bytes.length % 2 = 0) (i : Nat) :
    (∃ bs, readPairs i bytes = .ok bs ∧ WritesBytes bytes bs) ∨
      ∃ k b, FirstNonDigit bytes k b ∧ readPairs i bytes = .error (.digit (Char.ofNat b.toNat) (i + k)) := by
  induction i, bytes using readPairs.induct with
  | case1 i high low rest ih =>
      cases ha : hexValue? high with
      | none => exact .inr ⟨0, high, firstNonDigit_zero (digitOf?_eq_none ha) _, readPairs_of_high ha i low rest⟩
      | some a =>
          cases hd : hexValue? low with
          | none =>
              have hfirst := firstNonDigit_zero (digitOf?_eq_none hd) rest
              exact .inr ⟨1, low, hfirst.cons (digitOf?_ne_none ha), readPairs_of_low ha hd i rest⟩
          | some d =>
              rw [readPairs_of_rest ha hd]
              rcases ih ((Nat.add_mod_right rest.length 2).symm.trans heven) with ⟨bs, hread, hwrites⟩ | ⟨k, b, hfirst, hread⟩
              · rw [hread]
                exact .inl ⟨_, rfl, hwrites.cons ha hd⟩
              · refine .inr ⟨k + 2, b, (hfirst.cons (digitOf?_ne_none hd)).cons (digitOf?_ne_none ha), ?_⟩
                rw [hread, Nat.add_assoc, Nat.add_comm 2]
                rfl
  | case2 bytes i hshort =>
      rcases bytes with _ | ⟨high, _ | ⟨low, rest⟩⟩
      · exact .inl ⟨[], rfl, writesBytes_nil⟩
      · cases heven
      · exact (hshort high low rest rfl).elim

/-! ## Digits for a given number of bytes -/

/-- Why digits do not fill so many bytes. -/
inductive FillError where
  | oddLength
  | otherLength
  | text (e : HashTextError)

/-- The bytes that digits write, if they are `n`. How many digits there are is looked at first. -/
def fillBytes (n : Nat) (digits : List UInt8) : Except FillError (List UInt8) :=
  if digits.length % 2 ≠ 0 then .error .oddLength
  else if digits.length / 2 ≠ n then .error .otherLength
  else (readPairs 0 digits).mapError .text

namespace Hash

/-- Reads the digits of a hash into 32 bytes. -/
def parseFilling (text : String) : Except FillError Hash :=
  if text.utf8ByteSize ≠ 64 then .error (.text (.length text.utf8ByteSize))
  else (fillBytes 32 text.toUTF8.data.toList).map (ofBytes ·.reverse)

variable {s : String}

theorem parse_of_other_length (hlength : s.toUTF8.data.toList.length ≠ 64) :
    parse s = .error (.length s.toUTF8.data.toList.length) := by
  rw [← utf8ByteSize_eq] at hlength ⊢
  rw [parse, if_pos hlength]
  rfl

theorem parse_of_length (hlength : s.toUTF8.data.toList.length = 64) :
    parse s = (readPairs 0 s.toUTF8.data.toList).map (ofBytes ·.reverse) := by
  rw [← utf8ByteSize_eq] at hlength
  rw [parse, if_neg (not_not.2 hlength)]
  cases readPairs 0 s.toUTF8.data.toList <;> rfl

/-- The number of digits is never wrong, for it has been looked at before. -/
theorem parseFilling_eq (s : String) : parseFilling s = (parse s).mapError .text := by
  rw [parseFilling, utf8ByteSize_eq]
  by_cases hlength : s.toUTF8.data.toList.length = 64
  · rw [if_neg (not_not.2 hlength), parse_of_length hlength, fillBytes, hlength]
    cases readPairs 0 s.toUTF8.data.toList <;> rfl
  · rw [if_pos hlength, parse_of_other_length hlength]
    rfl

theorem byteAt_ofBytes_reverse (hlength : bs.length = 32) (i : Fin 32) :
    bs[31 - i.val]? = some ((ofBytes bs.reverse).byteAt i) := by
  have hi := i.isLt
  have hlt : 31 - i.val < bs.length := by omega
  rw [List.getElem?_eq_getElem hlt]
  simp [byteAt, ofBytes, hlength]

/-- A text of 64 bytes is the hash of its pairs, or is refused for the first byte that is no digit. -/
theorem parse_ends (hlength : s.toUTF8.data.toList.length = 64) :
    (∃ h, parse s = .ok h ∧ (∀ b ∈ s.toUTF8.data.toList, digitOf? b ≠ none) ∧
      ∀ i : Fin 32, pairAt? s.toUTF8.data.toList (62 - 2 * i) = some (h.byteAt i).toNat) ∨
    ∃ k b, FirstNonDigit s.toUTF8.data.toList k b ∧ parse s = .error (.digit (Char.ofNat b.toNat) k) := by
  rw [parse_of_length hlength]
  rcases readPairs_ends (by rw [hlength]) 0 with ⟨bs, hread, hwrites⟩ | ⟨k, b, hfirst, hread⟩
  · refine .inl ⟨ofBytes bs.reverse, by rw [hread]; rfl, hwrites.digits, fun i => ?_⟩
    have hbytes : bs.length = 32 := by
      have := hwrites.length
      omega
    have hplace : 62 - 2 * i.val = 2 * (31 - i.val) := by omega
    rw [hplace, hwrites.value, byteAt_ofBytes_reverse hbytes, Option.map_some]
  · refine .inr ⟨k, b, hfirst, ?_⟩
    rw [hread, Nat.zero_add]
    rfl

theorem ext_byteAt {h k : Hash} (hbytes : ∀ i, h.byteAt i = k.byteAt i) : h = k := by
  obtain ⟨bytes⟩ := h
  obtain ⟨bytes'⟩ := k
  exact congrArg mk (Vector.ext fun i hi => hbytes ⟨i, hi⟩)

theorem parse_eq_length_iff {n : Nat} :
    parse s = .error (.length n) ↔ n = s.toUTF8.data.toList.length ∧ n ≠ 64 := by
  by_cases hlength : s.toUTF8.data.toList.length = 64
  · refine iff_of_false (fun hread => ?_) fun h => h.2 (h.1.trans hlength)
    rcases parse_ends hlength with ⟨h, hparse, -⟩ | ⟨k, b, -, hparse⟩
    · cases hparse.symm.trans hread
    · cases hparse.symm.trans hread
  · rw [parse_of_other_length hlength]
    constructor
    · intro hread
      cases hread
      exact ⟨rfl, hlength⟩
    · rintro ⟨rfl, -⟩
      rfl

theorem exists_parse_iff :
    (∃ h, parse s = .ok h) ↔ s.toUTF8.data.toList.length = 64 ∧ ∀ b ∈ s.toUTF8.data.toList, digitOf? b ≠ none := by
  by_cases hlength : s.toUTF8.data.toList.length = 64
  · rcases parse_ends hlength with ⟨h, hparse, hdigits, -⟩ | ⟨k, b, hfirst, hparse⟩
    · exact iff_of_true ⟨h, hparse⟩ ⟨hlength, hdigits⟩
    · refine iff_of_false ?_ fun h => h.2 b (List.mem_of_getElem? hfirst.found) hfirst.noDigit
      rintro ⟨h, hread⟩
      cases hparse.symm.trans hread
  · refine iff_of_false ?_ fun h => hlength h.1
    rintro ⟨h, hread⟩
    cases (parse_of_other_length hlength).symm.trans hread

theorem parse_eq_ok_iff_pairs {h : Hash} :
    parse s = .ok h ↔ s.toUTF8.data.toList.length = 64 ∧
      ∀ i : Fin 32, pairAt? s.toUTF8.data.toList (62 - 2 * i) = some (h.byteAt i).toNat := by
  constructor
  · intro hread
    have hlength := (exists_parse_iff.1 ⟨h, hread⟩).1
    rcases parse_ends hlength with ⟨h', hparse, -, hvalue⟩ | ⟨k, b, -, hparse⟩
    · obtain rfl := Except.ok.inj (hparse.symm.trans hread)
      exact ⟨hlength, hvalue⟩
    · cases hparse.symm.trans hread
  · rintro ⟨hlength, hpairs⟩
    rcases parse_ends hlength with ⟨h', hparse, -, hvalue⟩ | ⟨k, b, hfirst, -⟩
    · rw [hparse]
      refine congrArg Except.ok (ext_byteAt fun i => UInt8.toNat_inj.1 ?_)
      exact Option.some.inj ((hvalue i).symm.trans (hpairs i))
    · -- the byte that is no digit would be in one of the pairs
      have hk : k < 64 := hlength ▸ (List.getElem?_eq_some_iff.1 hfirst.found).1
      have hpair := hpairs ⟨31 - k / 2, by omega⟩
      have hplace : k = 62 - 2 * (31 - k / 2) ∨ k = 62 - 2 * (31 - k / 2) + 1 := by omega
      exact absurd hfirst.noDigit (digits_of_pairAt? hpair hfirst.found hplace)

theorem parse_eq_digit_iff {c : Char} {k : Nat} :
    parse s = .error (.digit c k) ↔ s.toUTF8.data.toList.length = 64 ∧
      ∃ b, FirstNonDigit s.toUTF8.data.toList k b ∧ c = Char.ofNat b.toNat := by
  by_cases hlength : s.toUTF8.data.toList.length = 64
  · rcases parse_ends hlength with ⟨h, hparse, hdigits, -⟩ | ⟨j, b, hfirst, hparse⟩
    · refine iff_of_false (fun hread => ?_) ?_
      · cases hparse.symm.trans hread
      · rintro ⟨-, b, hfirst, -⟩
        exact hdigits b (List.mem_of_getElem? hfirst.found) hfirst.noDigit
    · rw [hparse]
      constructor
      · intro hread
        cases hread
        exact ⟨hlength, b, hfirst, rfl⟩
      · rintro ⟨-, b', hfirst', rfl⟩
        obtain ⟨rfl, rfl⟩ := hfirst.unique hfirst'
        rfl
  · refine iff_of_false (fun hread => ?_) fun h => hlength h.1
    cases (parse_of_other_length hlength).symm.trans hread

theorem parseFilling_ne {e : FillError} (hother : ∀ e', e ≠ .text e') : parseFilling s ≠ .error e := by
  intro hread
  rw [parseFilling_eq] at hread
  cases hparse : parse s with
  | ok h =>
      rw [hparse] at hread
      cases hread
  | error e' =>
      rw [hparse] at hread
      cases hread
      exact hother e' rfl

/-- To fill 32 bytes from the digits reads a text as it is read; that the digits would not fill them is never said. The bytes of
the text decide whether it is read as a hash, as which, and if not, why: their number if they are not 64, and else the first that
is no digit. -/
theorem bytes_decide_reading (s : String) :
    (parseFilling s = (parse s).mapError .text ∧ parseFilling s ≠ .error .oddLength ∧ parseFilling s ≠ .error .otherLength) ∧
    let bytes := s.toUTF8.data.toList
    (∀ n, parse s = .error (.length n) ↔ n = bytes.length ∧ n ≠ 64) ∧
    ((∃ h, parse s = .ok h) ↔ bytes.length = 64 ∧ ∀ b ∈ bytes, digitOf? b ≠ none) ∧
    (∀ h, parse s = .ok h ↔ bytes.length = 64 ∧ ∀ i : Fin 32, pairAt? bytes (62 - 2 * i) = some (h.byteAt i).toNat) ∧
    ∀ c k, parse s = .error (.digit c k) ↔ bytes.length = 64 ∧ ∃ b, FirstNonDigit bytes k b ∧ c = Char.ofNat b.toNat := by
  refine ⟨⟨parseFilling_eq s, ?_, ?_⟩, ?_⟩
  · exact parseFilling_ne fun e' => nofun
  · exact parseFilling_ne fun e' => nofun
  · exact ⟨fun n => parse_eq_length_iff, exists_parse_iff, fun h => parse_eq_ok_iff_pairs, fun c k => parse_eq_digit_iff⟩

/-- Sixty-four bytes in 63 characters, of which the last is no digit, and a text that is a hash. -/
theorem stopped_in_wide_character :
    let s := "00000000000000000000000000000000000000000000000000000000000000é"
    let s' := "0000000000000000000000000000000000000000000000000000000000000aBc"
    (∃ b, FirstNonDigit s.toUTF8.data.toList 62 b ∧ 'Ã' = Char.ofNat b.toNat) ∧ (∃ h, parse s' = .ok h) ∧
      parse (s ++ s') = .error (.length 128) := by
  intro s s'
  have hread : parse s = .error (.digit 'Ã' 62) := by decide +kernel
  obtain ⟨-, -, -, -, hdigit⟩ := bytes_decide_reading s
  obtain ⟨-, -, hread', -⟩ := bytes_decide_reading s'
  obtain ⟨-, hlength, -⟩ := bytes_decide_reading (s ++ s')
  exact ⟨((hdigit 'Ã' 62).1 hread).2, hread'.2 (by decide +kernel), (hlength 128).2 (by decide +kernel)⟩

end Hash

end ShardStore
