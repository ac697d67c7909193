import Bundler.Text.Utf8
import Mathlib

/-!
# UTF-8 there and back

A text is read back from its bytes, character by character (`scan_encode`). A byte of ASCII stands for itself wherever
it is, also behind a character that breaks off, so bytes can be cut there before they are read (`scan_append_cons`).
-/

namespace Bundler.Utf8

section

variable {a b c d e : UInt8}

/-! ## Characters of one to four bytes -/

theorem scan_ascii (ha : a < 0x80) (rest : List UInt8) : scan (a :: rest) = some (Char.ofNat a.toNat) :: scan rest := by
  rw [scan.eq_def]
  exact if_pos ha

theorem scan_two (hb : 0xC2 ≤ b ∧ b < 0xE0) (hc : isContinuation c = true) (rest : List UInt8) :
    scan (b :: c :: rest) = some (Char.ofNat (extend (b.toNat % 32) c)) :: scan rest := by
  have hascii : ¬b < 0x80 := by grind
  rw [scan.eq_def]
  simp only [hascii, hb, hc, decide_true, Bool.and_true, if_true, if_false]

theorem scan_three (hb : 0xE0 ≤ b ∧ b < 0xF0) (hc : isSecondOfThree b c = true) (hd : isContinuation d = true)
    (rest : List UInt8) :
    scan (b :: c :: d :: rest) = some (Char.ofNat (extend (extend (b.toNat % 16) c) d)) :: scan rest := by
  have hascii : ¬b < 0x80 := by grind
  have htwo : ¬b < 0xE0 := by grind
  rw [scan.eq_def]
  simp only [hascii, htwo, hb, hc, hd, decide_true, decide_false, Bool.and_true, Bool.and_false, if_true, if_false,
    Bool.false_eq_true]

theorem scan_four (hb : 0xF0 ≤ b ∧ b < 0xF5) (hc : isSecondOfFour b c = true) (hd : isContinuation d = true)
    (he : isContinuation e = true) (rest : List UInt8) :
    scan (b :: c :: d :: e :: rest) =
      some (Char.ofNat (extend (extend (extend (b.toNat % 8) c) d) e)) :: scan rest := by
  have hascii : ¬b < 0x80 := by grind
  have htwo : ¬b < 0xE0 := by grind
  have hthree : ¬b < 0xF0 := by grind
  rw [scan.eq_def]
  simp only [hascii, htwo, hthree, hb, hc, hd, he, decide_true, decide_false, Bool.and_true, Bool.and_false, if_true,
    if_false, Bool.false_eq_true]

/-! ## Bytes by their numbers -/

theorem isContinuation_iff : isContinuation b = true ↔ 0x80 ≤ b.toNat ∧ b.toNat < 0xC0 := by
  simp [isContinuation, UInt8.le_iff_toNat_le, UInt8.lt_iff_toNat_lt]

theorem isSecondOfThree_iff :
    isSecondOfThree b c = true ↔
      0x80 ≤ c.toNat ∧ c.toNat < 0xC0 ∧ (b.toNat = 0xE0 → 0xA0 ≤ c.toNat) ∧ (b.toNat = 0xED → c.toNat < 0xA0) := by
  simp only [isSecondOfThree, beq_iff_eq, ← UInt8.toNat_inj]
  simp [isContinuation, UInt8.le_iff_toNat_le, UInt8.lt_iff_toNat_lt]
  grind

theorem isSecondOfFour_iff :
    isSecondOfFour b c = true ↔
      0x80 ≤ c.toNat ∧ c.toNat < 0xC0 ∧ (b.toNat = 0xF0 → 0x90 ≤ c.toNat) ∧ (b.toNat = 0xF4 → c.toNat < 0x90) := by
  simp only [isSecondOfFour, beq_iff_eq, ← UInt8.toNat_inj]
  simp [isContinuation, UInt8.le_iff_toNat_le, UInt8.lt_iff_toNat_lt]
  grind

end

/-! ## Reading back what was written -/

section

variable {n : Nat} (rest : List UInt8)

theorem toNat_byte (h : n < 256) : (UInt8.ofNat n).toNat = n := by
  rw [UInt8.toNat_ofNat', Nat.mod_eq_of_lt h]

theorem byte_mem_iff {low high : UInt8} (h : n < 256) :
    low ≤ UInt8.ofNat n ∧ UInt8.ofNat n < high ↔ low.toNat ≤ n ∧ n < high.toNat := by
  rw [UInt8.le_iff_toNat_le, UInt8.lt_iff_toNat_lt, toNat_byte h]

theorem scan_bytes_one (hn : n < 0x80) : scan (UInt8.ofNat n :: rest) = some (Char.ofNat n) :: scan rest := by
  have hb : (UInt8.ofNat n).toNat = n := toNat_byte (by omega)
  rw [scan_ascii, hb]
  rw [UInt8.lt_iff_toNat_lt, hb]
  exact hn

theorem scan_bytes_two (hn : 0x80 ≤ n ∧ n < 0x800) :
    scan (UInt8.ofNat (n / 64 % 32 + 192) :: UInt8.ofNat (n % 64 + 128) :: rest) =
      some (Char.ofNat n) :: scan rest := by
  have hb : (UInt8.ofNat (n / 64 % 32 + 192)).toNat = n / 64 % 32 + 192 := toNat_byte (by omega)
  have hc : (UInt8.ofNat (n % 64 + 128)).toNat = n % 64 + 128 := toNat_byte (by omega)
  have hvalue : (n / 64 % 32 + 192) % 32 * 64 + (n % 64 + 128) % 64 = n := by omega
  rw [scan_two, extend, hb, hc, hvalue]
  · exact (byte_mem_iff (by omega)).mpr ⟨(by omega : 0xC2 ≤ _), (by omega : _ < 0xE0)⟩
  · rw [isContinuation_iff, hc]
    omega

theorem scan_bytes_three (hn : 0x800 ≤ n ∧ n < 0x10000) (hsurrogate : n < 0xD800 ∨ 0xDFFF < n) :
    scan (UInt8.ofNat (n / 4096 % 16 + 224) :: UInt8.ofNat (n / 64 % 64 + 128) :: UInt8.ofNat (n % 64 + 128) :: rest) =
      some (Char.ofNat n) :: scan rest := by
  have hb : (UInt8.ofNat (n / 4096 % 16 + 224)).toNat = n / 4096 % 16 + 224 := toNat_byte (by omega)
  have hc : (UInt8.ofNat (n / 64 % 64 + 128)).toNat = n / 64 % 64 + 128 := toNat_byte (by omega)
  have hd : (UInt8.ofNat (n % 64 + 128)).toNat = n % 64 + 128 := toNat_byte (by omega)
  have hvalue : ((n / 4096 % 16 + 224) % 16 * 64 + (n / 64 % 64 + 128) % 64) * 64 + (n % 64 + 128) % 64 = n := by omega
  rw [scan_three, extend, extend, hb, hc, hd, hvalue]
  · exact (byte_mem_iff (by omega)).mpr ⟨(by omega : 0xE0 ≤ _), (by omega : _ < 0xF0)⟩
  · rw [isSecondOfThree_iff, hb, hc]
    omega
  · rw [isContinuation_iff, hd]
    omega

theorem scan_bytes_four (hn : 0x10000 ≤ n ∧ n < 0x110000) :
    scan (UInt8.ofNat (n / 262144 % 8 + 240) :: UInt8.ofNat (n / 4096 % 64 + 128) :: UInt8.ofNat (n / 64 % 64 + 128) ::
        UInt8.ofNat (n % 64 + 128) :: rest) =
      some (Char.ofNat n) :: scan rest := by
  have hb : (UInt8.ofNat (n / 262144 % 8 + 240)).toNat = n / 262144 % 8 + 240 := toNat_byte (by omega)
  have hc : (UInt8.ofNat (n / 4096 % 64 + 128)).toNat = n / 4096 % 64 + 128 := toNat_byte (by omega)
  have hd : (UInt8.ofNat (n / 64 % 64 + 128)).toNat = n / 64 % 64 + 128 := toNat_byte (by omega)
  have he : (UInt8.ofNat (n % 64 + 128)).toNat = n % 64 + 128 := toNat_byte (by omega)
  have hvalue : (((n / 262144 % 8 + 240) % 8 * 64 + (n / 4096 % 64 + 128) % 64) * 64 + (n / 64 % 64 + 128) % 64) * 64 +
      (n % 64 + 128) % 64 = n := by
    omega
  rw [scan_four, extend, extend, extend, hb, hc, hd, he, hvalue]
  · exact (byte_mem_iff (by omega)).mpr ⟨(by omega : 0xF0 ≤ _), (by omega : _ < 0xF5)⟩
  · rw [isSecondOfFour_iff, hb, hc]
    omega
  · rw [isContinuation_iff, hd]
    omega
  · rw [isContinuation_iff, he]
    omega

end

/-- A character is read back from its bytes, whatever follows. -/
theorem scan_utf8EncodeChar (c : Char) (rest : List UInt8) :
    scan (String.utf8EncodeChar c ++ rest) = some c :: scan rest := by
  have hvalid : c.val.toNat < 0xD800 ∨ 0xDFFF < c.val.toNat ∧ c.val.toNat < 0x110000 := c.valid
  rw [show some c = some (Char.ofNat c.val.toNat) from congrArg some (Char.ofNat_toNat c).symm]
  unfold String.utf8EncodeChar
  dsimp only
  split_ifs
  · exact scan_bytes_one rest (by omega)
  · exact scan_bytes_two rest (by omega)
  · exact scan_bytes_three rest (by omega) (by omega)
  · exact scan_bytes_four rest (by omega)

/-- A byte of a character is its number, or beyond ASCII. -/
theorem toNat_of_mem_utf8EncodeChar {c : Char} {b : UInt8} (h : b ∈ String.utf8EncodeChar c) :
    b.toNat = c.toNat ∨ 0x80 ≤ b.toNat := by
  have hnat : c.toNat = c.val.toNat := rfl
  unfold String.utf8EncodeChar at h
  dsimp only at h
  split_ifs at h <;> simp only [List.mem_cons, List.not_mem_nil, or_false] at h
  · subst h
    rw [toNat_byte (by omega)]
    exact .inl hnat.symm
  · refine .inr ?_
    rcases h with rfl | rfl <;> rw [toNat_byte (by omega)] <;> omega
  · refine .inr ?_
    rcases h with rfl | rfl | rfl <;> rw [toNat_byte (by omega)] <;> omega
  · refine .inr ?_
    rcases h with rfl | rfl | rfl | rfl <;> rw [toNat_byte (by omega)] <;> omega

theorem scan_flatMap_utf8EncodeChar (chars : List Char) :
    scan (chars.flatMap String.utf8EncodeChar) = chars.map some := by
  induction chars with
  | nil => rfl
  | cons c chars ih => rw [List.flatMap_cons, scan_utf8EncodeChar, ih, List.map_cons]

/-- **A text is read back from its bytes.** -/
theorem scan_encode (s : String) : scan (encode s) = s.toList.map some :=
  scan_flatMap_utf8EncodeChar s.toList

theorem decodeLossy_encode (s : String) : decodeLossy (encode s) = s := by
  rw [decodeLossy, scan_encode, List.map_map]
  show String.ofList (s.toList.map id) = s
  rw [List.map_id, String.ofList_toList]

theorem decode?_encode (s : String) : decode? (encode s) = some s := by
  simp [decode?, scan_encode, List.filterMap_map]

/-! ## Cutting at ASCII -/

section

variable {b : UInt8} (hb : b < 0x80)

include hb

theorem isContinuation_ascii : isContinuation b = false := by
  have h : ¬0x80 ≤ b := by grind
  simp [isContinuation, h]

theorem isSecondOfThree_ascii (first : UInt8) : isSecondOfThree first b = false := by
  have h : ¬0x80 ≤ b := by grind
  have h' : ¬0xA0 ≤ b := by grind
  simp [isSecondOfThree, isContinuation, h, h']

theorem isSecondOfFour_ascii (first : UInt8) : isSecondOfFour first b = false := by
  have h : ¬0x80 ≤ b := by grind
  have h' : ¬0x90 ≤ b := by grind
  simp [isSecondOfFour, isContinuation, h, h']

/-- A byte of ASCII stands for itself, whatever comes before it. -/
theorem scan_append_cons (before after : List UInt8) :
    scan (before ++ b :: after) = scan before ++ some (Char.ofNat b.toNat) :: scan after := by
  fun_induction scan before with
  | case1 => exact scan_ascii hb after
  | _ =>
    -- the byte continues no character, so it changes nothing in the one before it
    simp only [List.cons_append, List.nil_append] at *
    rw [scan.eq_def]
    simp only [*, if_true, if_false, Bool.false_eq_true, isContinuation_ascii hb, isSecondOfThree_ascii hb,
      isSecondOfFour_ascii hb, scan_ascii hb]

theorem decodeLossy_append_cons (before after : List UInt8) :
    (decodeLossy (before ++ b :: after)).toList =
      (decodeLossy before).toList ++ Char.ofNat b.toNat :: (decodeLossy after).toList := by
  simp only [decodeLossy, String.toList_ofList, scan_append_cons hb, List.map_append, List.map_cons, Option.getD_some]

end

end Bundler.Utf8
