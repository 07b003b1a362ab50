import Mathlib.Data.List.Basic
import ShardStore.Error
import ShardStore.Hash.Text

/-!
# Hashes read back

A text reads as a hash just if it is the text of the hash up to the case of its letters. So the text of a hash stands for it, in
errors too, and reads back to it.
-/

namespace ShardStore

/-! ## The bytes of a text -/

theorem toList_toUTF8 (s : String) : s.toUTF8.data.toList = s.toList.flatMap String.utf8EncodeChar := by
  have hbytes : s.toByteArray = (s.toList.flatMap String.utf8EncodeChar).toByteArray := by
    rw [← List.utf8Encode, ← String.toByteArray_ofList, String.ofList_toList]
  change s.toByteArray.data.toList = _
  rw [hbytes, List.toList_data_toByteArray]

theorem toList_toLower (s : String) : s.toLower.toList = s.toList.map Char.toLower := String.toList_map

theorem utf8ByteSize_eq (s : String) : s.utf8ByteSize = s.toUTF8.data.toList.length := Array.length_toList.symm

theorem utf8EncodeChar_of_ascii {c : Char} (hascii : c.toNat < 128) : String.utf8EncodeChar c = [c.toUInt8] := by
  have hval : c.val.toNat ≤ 127 := Nat.le_of_lt_succ hascii
  simp only [String.utf8EncodeChar, hval, if_true]
  rfl

/-- A character outside ASCII starts with a byte outside ASCII. -/
theorem ascii_of_utf8EncodeChar {c : Char} (hascii : ∀ b ∈ String.utf8EncodeChar c, b.toNat < 128) : c.toNat < 128 := by
  by_cases hval : c.val.toNat ≤ 127
  · exact Nat.lt_succ_of_le hval
  · exfalso
    simp only [String.utf8EncodeChar, hval, if_false] at hascii
    have hsize := c.val.toNat_lt
    -- two, three or four bytes
    split at hascii
    case' isFalse => split at hascii
    all_goals
      have hfirst := hascii _ (List.mem_cons_self ..)
      rw [UInt8.toNat_ofNat'] at hfirst
      omega

theorem toUTF8_of_ascii {s : String} (hascii : ∀ c ∈ s.toList, c.toNat < 128) :
    s.toUTF8.data.toList = s.toList.map Char.toUInt8 := by
  rw [toList_toUTF8, List.map_eq_flatMap]
  exact List.flatMap_congr fun c hc => utf8EncodeChar_of_ascii (hascii c hc)

theorem ascii_of_toUTF8 {s : String} (hascii : ∀ b ∈ s.toUTF8.data.toList, b.toNat < 128) :
    ∀ c ∈ s.toList, c.toNat < 128 := by
  rw [toList_toUTF8] at hascii
  exact fun c hc => ascii_of_utf8EncodeChar fun b hb => hascii b (List.mem_flatMap.2 ⟨c, hc, hb⟩)

theorem ofNat_toUInt8 {c : Char} (hascii : c.toNat < 128) : Char.ofNat c.toUInt8.toNat = c := by
  have hbyte : c.toUInt8.toNat = c.toNat := Nat.mod_eq_of_lt (Nat.lt_trans hascii (by decide))
  rw [hbyte, Char.ofNat_toNat]

/-! ## Digits -/

theorem hexDigit_lower {n : UInt8} (hn : n < 16) :
    hexDigit n ∈ "0123456789abcdef".toList ∧ (hexDigit n).toLower = hexDigit n := by
  have hall : ∀ n < 16,
      hexDigit (.ofNat n) ∈ "0123456789abcdef".toList ∧ (hexDigit (.ofNat n)).toLower = hexDigit (.ofNat n) := by
    decide
  have hthis := hall n.toNat hn
  rwa [UInt8.ofNat_toNat] at hthis

theorem of_hexValue? {b n : UInt8} (hvalue : hexValue? b = some n) :
    b.toNat < 128 ∧ n < 16 ∧ (Char.ofNat b.toNat).toLower = hexDigit n := by
  have hall : ∀ k < 256, ∀ n ∈ hexValue? (.ofNat k), k < 128 ∧ n < 16 ∧ (Char.ofNat k).toLower = hexDigit n := by
    decide +kernel
  have hthis := hall b.toNat b.toNat_lt n
  rw [UInt8.ofNat_toNat] at hthis
  exact hthis hvalue

/-- Both forms of a digit are read, the lower-case one and the upper-case one. -/
theorem hexValue?_of_toLower {c : Char} {n : UInt8} (hn : n < 16) (hlower : c.toLower = hexDigit n) :
    c.toNat < 128 ∧ hexValue? c.toUInt8 = some n := by
  have hdigit : ∀ n < 16, (hexDigit (.ofNat n)).toNat < 128 := by decide
  have hascii : c.toNat < 128 := by
    by_cases hupper : c.val ≥ 'A'.val ∧ c.val ≤ 'Z'.val
    · exact Nat.lt_of_le_of_lt (UInt32.le_iff_toNat_le.1 hupper.2) (by decide)
    · have hsame : c.toLower = c := dif_neg hupper
      have hthis := hdigit n.toNat hn
      rwa [UInt8.ofNat_toNat, ← hlower, hsame] at hthis
  have hall : ∀ k < 128, ∀ n < 16, (Char.ofNat k).toLower = hexDigit (.ofNat n) →
      hexValue? (Char.ofNat k).toUInt8 = some (.ofNat n) := by
    decide +kernel
  have hthis := hall c.toNat hascii n.toNat hn
  rw [UInt8.ofNat_toNat, Char.ofNat_toNat] at hthis
  exact ⟨hascii, hthis hlower⟩

theorem div_lt_sixteen (b : UInt8) : b / 16 < 16 := by
  rw [UInt8.lt_iff_toNat_lt, UInt8.toNat_div]
  exact Nat.div_lt_of_lt_mul b.toNat_lt

theorem mod_lt_sixteen (b : UInt8) : b % 16 < 16 := UInt8.mod_lt b (by decide)

theorem toNat_mul_add {high low : UInt8} (hhigh : high < 16) (hlow : low < 16) :
    (high * 16 + low).toNat = high.toNat * 16 + low.toNat := by
  have hhigh' : high.toNat < 16 := hhigh
  have hlow' : low.toNat < 16 := hlow
  rw [UInt8.toNat_add, UInt8.toNat_mul]
  change (high.toNat * 16 % 256 + low.toNat) % 256 = _
  omega

theorem div_mul_add_mod (b : UInt8) : b / 16 * 16 + b % 16 = b := by
  rw [← UInt8.toNat_inj, toNat_mul_add (div_lt_sixteen b) (mod_lt_sixteen b), UInt8.toNat_div, UInt8.toNat_mod]
  exact Nat.div_add_mod' b.toNat 16

theorem byteDigits_mul_add {high low : UInt8} (hhigh : high < 16) (hlow : low < 16) :
    byteDigits (high * 16 + low) = [hexDigit high, hexDigit low] := by
  have hhigh' : high.toNat < 16 := hhigh
  have hlow' : low.toNat < 16 := hlow
  have hdiv : (high * 16 + low) / 16 = high := by
    rw [← UInt8.toNat_inj, UInt8.toNat_div, toNat_mul_add hhigh hlow]
    change (high.toNat * 16 + low.toNat) / 16 = _
    omega
  have hmod : (high * 16 + low) % 16 = low := by
    rw [← UInt8.toNat_inj, UInt8.toNat_mod, toNat_mul_add hhigh hlow]
    change (high.toNat * 16 + low.toNat) % 16 = _
    omega
  rw [byteDigits, hdiv, hmod]

theorem length_flatMap_byteDigits (bs : List UInt8) : (bs.flatMap byteDigits).length = 2 * bs.length := by
  induction bs with
  | nil => rfl
  | cons b bs ih =>
      rw [List.flatMap_cons, List.length_append, ih, List.length_cons, Nat.mul_succ, Nat.add_comm]
      rfl

theorem flatMap_byteDigits_lower {bs : List UInt8} {c : Char} (hc : c ∈ bs.flatMap byteDigits) :
    c ∈ "0123456789abcdef".toList ∧ c.toLower = c := by
  obtain ⟨b, -, hdigit⟩ := List.mem_flatMap.1 hc
  rcases (List.mem_cons.1 hdigit).imp_right List.mem_singleton.1 with rfl | rfl
  · exact hexDigit_lower (div_lt_sixteen b)
  · exact hexDigit_lower (mod_lt_sixteen b)

/-! ## Pairs of digits -/

theorem readDigit_eq_ok_iff {i : Nat} {b n : UInt8} : readDigit i b = .ok n ↔ hexValue? b = some n := by
  unfold readDigit
  cases hexValue? b <;> simp

theorem readPairs_cons_eq_ok_iff {i : Nat} {high low : UInt8} {rest bs : List UInt8} :
    readPairs i (high :: low :: rest) = .ok bs ↔
      ∃ a b bs', hexValue? high = some a ∧ hexValue? low = some b ∧ readPairs (i + 2) rest = .ok bs' ∧
        bs = (a * 16 + b) :: bs' := by
  rw [readPairs]
  constructor
  · intro hread
    cases ha : readDigit i high with
    | error e => rw [ha] at hread; cases hread
    | ok a =>
        cases hb : readDigit (i + 1) low with
        | error e => rw [ha, hb] at hread; cases hread
        | ok b =>
            cases hrest : readPairs (i + 2) rest with
            | error e => rw [ha, hb, hrest] at hread; cases hread
            | ok bs' =>
                rw [ha, hb, hrest] at hread
                exact ⟨a, b, bs', readDigit_eq_ok_iff.1 ha, readDigit_eq_ok_iff.1 hb, rfl, (Except.ok.inj hread).symm⟩
  · rintro ⟨a, b, bs', ha, hb, hrest, rfl⟩
    rw [readDigit_eq_ok_iff.2 ha, readDigit_eq_ok_iff.2 hb, hrest]
    rfl

/-- What reads as pairs of digits is in ASCII, and in lower case it is the digits of what was read. -/
theorem digits_of_readPairs {i : Nat} {bytes bs : List UInt8} (hread : readPairs i bytes = .ok bs)
    (heven : bytes.length % 2 = 0) :
    (∀ b ∈ bytes, b.toNat < 128) ∧ bytes.map (fun b => (Char.ofNat b.toNat).toLower) = bs.flatMap byteDigits := by
  induction i, bytes using readPairs.induct generalizing bs with
  | case1 i high low rest ih =>
      obtain ⟨a, b, bs', ha, hb, hrest, rfl⟩ := readPairs_cons_eq_ok_iff.1 hread
      obtain ⟨hhigh, hsmall, hdigit⟩ := of_hexValue? ha
      obtain ⟨hlow, hsmall', hdigit'⟩ := of_hexValue? hb
      obtain ⟨hascii, hdigits⟩ := ih hrest ((Nat.add_mod_right rest.length 2).symm.trans heven)
      refine ⟨List.forall_mem_cons.2 ⟨hhigh, List.forall_mem_cons.2 ⟨hlow, hascii⟩⟩, ?_⟩
      rw [List.map_cons, List.map_cons, hdigit, hdigit', hdigits, List.flatMap_cons, byteDigits_mul_add hsmall hsmall']
      rfl
  | case2 bytes i hshort =>
      match bytes with
      | [] =>
          obtain rfl := Except.ok.inj hread
          exact ⟨List.forall_mem_nil _, rfl⟩
      | [b] => cases heven
      | high :: low :: rest => exact (hshort high low rest rfl).elim

theorem readPairs_of_toLower {i : Nat} {cs : List Char} {bs : List UInt8}
    (hlower : cs.map Char.toLower = bs.flatMap byteDigits) :
    (∀ c ∈ cs, c.toNat < 128) ∧ readPairs i (cs.map Char.toUInt8) = .ok bs := by
  induction bs generalizing i cs with
  | nil =>
      obtain rfl : cs = [] := List.map_eq_nil_iff.1 hlower
      exact ⟨List.forall_mem_nil _, rfl⟩
  | cons b bs ih =>
      obtain ⟨high, rest, rfl, hhigh, hrest⟩ := List.map_eq_cons_iff.1 hlower
      obtain ⟨low, rest, rfl, hlow, hrest⟩ := List.map_eq_cons_iff.1 hrest
      obtain ⟨hascii, ha⟩ := hexValue?_of_toLower (div_lt_sixteen b) hhigh
      obtain ⟨hascii', hb⟩ := hexValue?_of_toLower (mod_lt_sixteen b) hlow
      obtain ⟨hall, hread⟩ := ih (i := i + 2) hrest
      refine ⟨List.forall_mem_cons.2 ⟨hascii, List.forall_mem_cons.2 ⟨hascii', hall⟩⟩, ?_⟩
      exact readPairs_cons_eq_ok_iff.2 ⟨_, _, _, ha, hb, hread, by rw [div_mul_add_mod]⟩

namespace Hash

/-! ## Texts of hashes -/

theorem length_toBytes (h : Hash) : h.toBytes.length = 32 := Vector.length_toList

theorem toBytes_inj {h k : Hash} : h.toBytes = k.toBytes ↔ h = k := by
  rw [toBytes, toBytes, Vector.toList_inj]
  exact ⟨fun heq => congrArg mk heq, fun heq => congrArg bytes heq⟩

theorem toBytes_ofBytes {bs : List UInt8} (hlength : bs.length = 32) : (ofBytes bs).toBytes = bs := by
  refine List.ext_getElem (by rw [length_toBytes, hlength]) fun i hi hi' => ?_
  simp [toBytes, ofBytes, hi']

theorem toList_toText (h : Hash) : h.toText.toList = h.toBytes.reverse.flatMap byteDigits := String.toList_ofList

theorem length_toText (h : Hash) : h.toText.length = 64 := by
  rw [← String.length_toList, toList_toText, length_flatMap_byteDigits, List.length_reverse, length_toBytes]

theorem toLower_toText (h : Hash) : h.toText.toLower = h.toText := by
  rw [← String.toList_inj, toList_toLower, toList_toText]
  exact (List.map_congr_left fun c hc => (flatMap_byteDigits_lower hc).2).trans (List.map_id _)

theorem parse_eq_ok_iff {s : String} {h : Hash} :
    parse s = .ok h ↔ s.utf8ByteSize = 64 ∧ (readPairs 0 s.toUTF8.data.toList).map (ofBytes ·.reverse) = .ok h := by
  rw [parse]
  by_cases hsize : s.utf8ByteSize = 64
  · rw [if_neg fun hne => hne hsize]
    simp only [hsize, true_and]
    cases readPairs 0 s.toUTF8.data.toList <;> exact Iff.rfl
  · rw [if_pos hsize]
    exact iff_of_false (fun h => nomatch h) fun h => hsize h.1

/-- The texts that are read as a hash are its own text with letters of either case. -/
theorem parse_eq_ok_iff_toText {s : String} {h : Hash} : parse s = .ok h ↔ h.toText = s.toLower := by
  rw [parse_eq_ok_iff, utf8ByteSize_eq, ← String.toList_inj, toList_toLower, toList_toText]
  constructor
  · rintro ⟨hsize, hread⟩
    cases hpairs : readPairs 0 s.toUTF8.data.toList with
    | error e => rw [hpairs] at hread; cases hread
    | ok bs =>
        rw [hpairs] at hread
        obtain ⟨hbytes, hdigits⟩ := digits_of_readPairs hpairs (by rw [hsize])
        have hascii := ascii_of_toUTF8 hbytes
        have hlength : bs.length = 32 := by
          have := congrArg List.length hdigits
          rw [List.length_map, hsize, length_flatMap_byteDigits] at this
          omega
        rw [← Except.ok.inj hread, toBytes_ofBytes (by rw [List.length_reverse, hlength]), List.reverse_reverse,
          ← hdigits, toUTF8_of_ascii hascii, List.map_map]
        exact List.map_congr_left fun c hc => congrArg Char.toLower (ofNat_toUInt8 (hascii c hc))
  · intro hlower
    obtain ⟨hascii, hread⟩ := readPairs_of_toLower (i := 0) hlower.symm
    rw [toUTF8_of_ascii hascii, hread]
    refine ⟨?_, ?_⟩
    · have := congrArg List.length hlower
      rw [length_flatMap_byteDigits, List.length_reverse, length_toBytes, List.length_map] at this
      rw [List.length_map, ← this]
    · have hback : ofBytes h.toBytes.reverse.reverse = h := by
        rw [← toBytes_inj, List.reverse_reverse, toBytes_ofBytes h.length_toBytes]
      exact congrArg Except.ok hback

theorem parse_toText (h : Hash) : parse h.toText = .ok h := parse_eq_ok_iff_toText.2 (toLower_toText h).symm

theorem toText_inj {h k : Hash} : h.toText = k.toText ↔ h = k := by
  refine ⟨fun htext => ?_, fun hsame => congrArg toText hsame⟩
  have hread := parse_toText h
  rw [htext, parse_toText] at hread
  exact (Except.ok.inj hread).symm

/-- Text and hash determine each other: a hash is shown as 64 lower-case digits that read back to it and that no other hash has,
also where they are the key of an error, and texts are read as one hash just if they differ in the case of letters only. -/
theorem text_reads_back :
    (∀ h : Hash, h.toText.length = 64 ∧ (∀ c ∈ h.toText.toList, c ∈ "0123456789abcdef".toList) ∧ parse h.toText = .ok h) ∧
    (∀ h k : Hash, (h.toText = k.toText ↔ h = k) ∧ (StoreError.present h.toText = .present k.toText ↔ h = k) ∧
      (StoreError.absent h.toText = .absent k.toText ↔ h = k)) ∧
    (∀ (s : String) (h : Hash), parse s = .ok h → h.toText = s.toLower) ∧
    ∀ (s s' : String) (h h' : Hash), parse s = .ok h → parse s' = .ok h' → (h = h' ↔ s.toLower = s'.toLower) := by
  refine ⟨fun h => ⟨length_toText h, fun c hc => ?_, parse_toText h⟩, fun h k => ⟨toText_inj, ?_, ?_⟩,
    fun s h => parse_eq_ok_iff_toText.1, fun s s' h h' hread hread' => ?_⟩
  · rw [toList_toText] at hc
    exact (flatMap_byteDigits_lower hc).1
  · rw [StoreError.present.injEq, toText_inj]
  · rw [StoreError.absent.injEq, toText_inj]
  · rw [← parse_eq_ok_iff_toText.1 hread, ← parse_eq_ok_iff_toText.1 hread', toText_inj]

/-- Two ways to write a hash that starts with the bytes 171 and 205. -/
theorem read_in_either_case :
    let s := "000000000000000000000000000000000000000000000000000000000000CDAB"
    let s' := "000000000000000000000000000000000000000000000000000000000000cDaB"
    let h := ofBytes [171, 205]
    parse s = .ok h ∧ parse s' = .ok h ∧ h.toText = s.toLower ∧ s.toLower = s'.toLower := by
  intro s s' h
  have hread : parse s = .ok h := by decide +kernel
  have hread' : parse s' = .ok h := by decide +kernel
  obtain ⟨-, -, hshown, hsame⟩ := text_reads_back
  exact ⟨hread, hread', hshown s h hread, (hsame s s' h h hread hread').1 rfl⟩

end Hash

end ShardStore
