import Bundler.Config.Settings
import Bundler.Proofs.Config.Json
import Bundler.Proofs.Text.Utf8
import Mathlib

/-!
# Reading the values of settings

The readers of a settings file take from its bytes what the grammar says was spelled there: a string with its escapes
resolved (`stringAfterQuote_of_spellsText`), and a value of the kind that is expected, while every other is refused
(`optionalValue_of_padded`).
-/

namespace Bundler.Config

open Json

variable {cs text : List Char} {c : Char} {rest : List UInt8}

/-- The bytes of some characters. -/
def bytesOf (cs : List Char) : List UInt8 :=
  cs.flatMap String.utf8EncodeChar

theorem encode_eq_bytesOf (s : String) : Utf8.encode s = bytesOf s.toList := rfl

@[simp] theorem bytesOf_nil : bytesOf [] = [] := rfl

@[simp] theorem bytesOf_append (cs cs' : List Char) : bytesOf (cs ++ cs') = bytesOf cs ++ bytesOf cs' :=
  List.flatMap_append

theorem bytesOf_cons (c : Char) (cs : List Char) : bytesOf (c :: cs) = String.utf8EncodeChar c ++ bytesOf cs :=
  List.flatMap_cons

@[simp] theorem bytesOf_quote (cs : List Char) : bytesOf ('"' :: cs) = quote :: bytesOf cs := rfl

@[simp] theorem bytesOf_comma (cs : List Char) : bytesOf (',' :: cs) = 0x2C :: bytesOf cs := rfl

@[simp] theorem bytesOf_colon (cs : List Char) : bytesOf (':' :: cs) = 0x3A :: bytesOf cs := rfl

@[simp] theorem bytesOf_open (cs : List Char) : bytesOf ('\x7b' :: cs) = 0x7B :: bytesOf cs := rfl

@[simp] theorem bytesOf_close (cs : List Char) : bytesOf ('\x7d' :: cs) = 0x7D :: bytesOf cs := rfl

theorem decodeLossy_bytesOf (cs : List Char) : Utf8.decodeLossy (bytesOf cs) = String.ofList cs := by
  have h := Utf8.decodeLossy_encode (String.ofList cs)
  rwa [encode_eq_bytesOf, String.toList_ofList] at h

/-! ## Blanks -/

theorem skipBlanks_bytesOf (h : IsBlanks cs) (rest : List UInt8) : skipBlanks (bytesOf cs ++ rest) = skipBlanks rest := by
  induction cs with
  | nil => rfl
  | cons c cs ih =>
    obtain ⟨hc, hcs⟩ := List.forall_mem_cons.mp h
    have hblank : ∃ b, String.utf8EncodeChar c = [b] ∧ isBlank b = true := by
      fin_cases hc <;> exact ⟨_, rfl, rfl⟩
    obtain ⟨b, hb, hskip⟩ := hblank
    rw [bytesOf_cons, hb, List.append_assoc, List.singleton_append, skipBlanks, List.dropWhile_cons_of_pos hskip]
    exact ih hcs

/-! ## Escapes -/

theorem hexValue?_of_mem {n : Nat} (h : (c, n) ∈ hexValues) (cs : List Char) :
    ∃ b, bytesOf (c :: cs) = b :: bytesOf cs ∧ hexValue? b = some n := by
  have hall : ∀ digit ∈ hexValues, ∃ b, String.utf8EncodeChar digit.1 = [b] ∧ hexValue? b = some digit.2 := by
    intro digit hdigit
    fin_cases hdigit <;> exact ⟨_, rfl, rfl⟩
  obtain ⟨b, hb, hvalue⟩ := hall _ h
  exact ⟨b, by rw [bytesOf_cons, hb]; rfl, hvalue⟩

theorem hexQuad_of_spellsUnit {n : Nat} (h : SpellsUnit cs n) (rest : List UInt8) :
    hexQuad (bytesOf cs ++ rest) = .ok (n, rest) := by
  obtain ⟨ha, hb, hc, hd⟩ := h
  obtain ⟨_, ha, ha'⟩ := hexValue?_of_mem ha _
  obtain ⟨_, hb, hb'⟩ := hexValue?_of_mem hb _
  obtain ⟨_, hc, hc'⟩ := hexValue?_of_mem hc _
  obtain ⟨_, hd, hd'⟩ := hexValue?_of_mem hd _
  rw [ha, hb, hc, hd]
  simp [hexQuad, ha', hb', hc', hd']

/-- What stands behind a backslash is read as the character that it spells. -/
theorem escape_of_spellsEscape (h : SpellsEscape cs c) (rest : List UInt8) :
    escape (bytesOf cs ++ rest) = .ok (c, rest) := by
  cases h with
  | short h => fin_cases h <;> rfl
  | @unit cs n h hsurrogate =>
    show hexEscape (bytesOf cs ++ rest) = .ok (Char.ofNat n, rest)
    have hlow : ¬(0xDC00 ≤ n ∧ n ≤ 0xDFFF) := by omega
    have halone : n < 0xD800 ∨ 0xDBFF < n := by omega
    simp only [hexEscape, hexQuad_of_spellsUnit h, bind, Except.bind, Bool.and_eq_true, Bool.or_eq_true,
      decide_eq_true_eq, if_neg hlow, if_pos halone]
  | @pair cs cs' high low h h' hhigh hlow =>
    have hbytes : bytesOf ('u' :: (cs ++ '\\' :: 'u' :: cs')) ++ rest =
        0x75 :: (bytesOf cs ++ (backslash :: 0x75 :: (bytesOf cs' ++ rest))) := by
      rw [bytesOf_cons, bytesOf_append, List.append_assoc, List.append_assoc]
      rfl
    rw [hbytes]
    show hexEscape (bytesOf cs ++ (backslash :: 0x75 :: (bytesOf cs' ++ rest))) = .ok (Char.ofNat _, rest)
    have hfirst : ¬(0xDC00 ≤ high ∧ high ≤ 0xDFFF) := by omega
    have hpaired : ¬(high < 0xD800 ∨ 0xDBFF < high) := by omega
    have hsecond : ¬(low < 0xDC00 ∨ 0xDFFF < low) := by omega
    have hmark : pairMark (backslash :: 0x75 :: (bytesOf cs' ++ rest)) = .ok ((), bytesOf cs' ++ rest) := rfl
    simp only [hexEscape, hexQuad_of_spellsUnit h, hexQuad_of_spellsUnit h', hmark, bind, Except.bind, Bool.and_eq_true,
      Bool.or_eq_true, decide_eq_true_eq, if_neg hfirst, if_neg hpaired, if_neg hsecond]

/-! ## Strings -/

/-- A byte that stands for itself in a string. -/
def IsInert (b : UInt8) : Prop :=
  b ≠ quote ∧ b ≠ backslash ∧ ¬b < 0x20

theorem isInert_iff {b : UInt8} : IsInert b ↔ b.toNat ≠ 0x22 ∧ b.toNat ≠ 0x5C ∧ 0x20 ≤ b.toNat := by
  rw [IsInert, Ne, Ne, ← UInt8.toNat_inj, ← UInt8.toNat_inj, UInt8.lt_iff_toNat_lt, not_lt]
  exact Iff.rfl

/-- Beyond ASCII, no byte of a character is a sign of its own. -/
theorem isInert_utf8EncodeChar (hquote : c ≠ '"') (hbackslash : c ≠ '\\') (hcontrol : 0x20 ≤ c.toNat) :
    ∀ b ∈ String.utf8EncodeChar c, IsInert b := by
  have hquote' : c.toNat ≠ 0x22 := fun h => hquote (Char.toNat_inj.mp h)
  have hbackslash' : c.toNat ≠ 0x5C := fun h => hbackslash (Char.toNat_inj.mp h)
  intro b hb
  rw [isInert_iff]
  rcases Utf8.toNat_of_mem_utf8EncodeChar hb with hsame | hbeyond
  · rw [hsame]
    exact ⟨hquote', hbackslash', hcontrol⟩
  · omega

theorem stringBody_inert {bytes : List UInt8} (h : ∀ b ∈ bytes, IsInert b) (fuel : Nat) (readSoFar rest : List UInt8) :
    stringBody (bytes.length + fuel) readSoFar (bytes ++ rest) = stringBody fuel (bytes.reverse ++ readSoFar) rest := by
  induction bytes generalizing readSoFar with
  | nil => simp
  | cons b bytes ih =>
    obtain ⟨⟨hquote, hbackslash, hcontrol⟩, hbytes⟩ := List.forall_mem_cons.mp h
    rw [List.length_cons, Nat.add_right_comm, List.cons_append, stringBody]
    simp only [if_neg hquote, if_neg hbackslash, if_neg hcontrol]
    rw [ih hbytes, List.reverse_cons, List.append_assoc]
    rfl

theorem stringBody_of_spellsText (h : SpellsText cs text) {fuel : Nat} (hfuel : (bytesOf cs).length < fuel)
    (readSoFar rest : List UInt8) :
    stringBody fuel readSoFar (bytesOf cs ++ quote :: rest) = .ok (readSoFar.reverse ++ bytesOf text, rest) := by
  induction h generalizing fuel readSoFar with
  | nil =>
    obtain ⟨fuel, rfl⟩ := Nat.exists_eq_add_of_lt hfuel
    simp [stringBody]
  | @cons cs more text c h _ ih =>
    rw [bytesOf_append, List.length_append] at hfuel
    rw [bytesOf_append, List.append_assoc, bytesOf_cons]
    cases h with
    | plain hquote hbackslash hcontrol =>
      obtain ⟨fuel, rfl⟩ := Nat.exists_eq_add_of_le (show (bytesOf [c]).length ≤ fuel by omega)
      rw [stringBody_inert _ fuel, ih (by omega)]
      · simp [bytesOf_cons]
      · simpa [bytesOf_cons] using isInert_utf8EncodeChar hquote hbackslash hcontrol
    | @escaped cs _ h =>
      obtain ⟨fuel, rfl⟩ := Nat.exists_eq_add_of_lt (show 0 < fuel by omega)
      have hmark : bytesOf ('\\' :: cs) = backslash :: bytesOf cs := rfl
      rw [hmark, List.length_cons] at hfuel
      rw [hmark, List.cons_append, Nat.zero_add, stringBody, if_neg (by decide), if_pos rfl, escape_of_spellsEscape h]
      simp only
      rw [ih (by omega)]
      simp

/-- A string is read as the text that it spells. -/
theorem stringAfterQuote_of_spellsText (h : SpellsText cs text) (rest : List UInt8) :
    stringAfterQuote (bytesOf cs ++ quote :: rest) = .ok (String.ofList text, rest) := by
  rw [stringAfterQuote, stringBody_of_spellsText h (by simp)]
  show Except.ok (Utf8.decodeLossy ([] ++ bytesOf text), rest) = _
  rw [List.nil_append, decodeLossy_bytesOf]

/-! ## Words -/

theorem wordRest_append (letters rest : List UInt8) : wordRest letters (letters ++ rest) = .ok ((), rest) := by
  induction letters with
  | nil => rfl
  | cons b letters ih =>
    rw [List.cons_append, wordRest, if_pos rfl]
    exact ih

/-- The rest of a word is read where it is spelled. -/
theorem wordRest_bytesOf (word : String) (h : word ∈ ["ull", "rue", "alse"]) (rest : List UInt8) :
    wordRest word.toUTF8.toList (bytesOf word.toList ++ rest) = .ok ((), rest) := by
  have hbytes : word.toUTF8.toList = bytesOf word.toList := by
    fin_cases h <;> cbv
  rw [hbytes, wordRest_append]

/-! ## Values -/

/-- The bytes that a value may begin with. They tell its kind. -/
def firstBytes : Value → List UInt8
  | .null => [0x6E]
  | .bool value => [if value then 0x74 else 0x66]
  | .number _ => bytesOf "-0123456789".toList
  | .string _ => [quote]
  | .list _ => [0x5B]
  | .object _ => [0x7B]

theorem isBlank_of_mem_firstBytes {value : Value} {b : UInt8} (h : b ∈ firstBytes value) : isBlank b = false := by
  cases value with
  | bool x => cases x <;> fin_cases h <;> rfl
  | _ => fin_cases h <;> rfl

theorem eq_null_of_mem_firstBytes {value : Value} (h : 0x6E ∈ firstBytes value) : value = .null := by
  cases value with
  | null => rfl
  | bool x => cases x <;> exact absurd h (by decide)
  | _ => exact absurd h (by rw [firstBytes]; decide)

theorem eq_string_of_mem_firstBytes {value : Value} (h : quote ∈ firstBytes value) : ∃ text, value = .string text := by
  cases value with
  | string text => exact ⟨text, rfl⟩
  | bool x => cases x <;> exact absurd h (by decide)
  | _ => exact absurd h (by rw [firstBytes]; decide)

theorem eq_bool_of_mem_firstBytes {value : Value} {b : UInt8} (hb : b ∈ firstBytes value) (h : b = 0x74 ∨ b = 0x66) :
    ∃ x, value = .bool x := by
  cases value with
  | bool x => exact ⟨x, rfl⟩
  | _ => rcases h with rfl | rfl <;> exact absurd hb (by rw [firstBytes]; decide)

theorem exists_first_byte {value : Value} (h : Spells cs value) :
    ∃ b ∈ firstBytes value, ∃ tail, bytesOf cs = b :: tail := by
  cases h with
  | number h =>
    obtain ⟨c, tail, rfl, hc⟩ := h.exists_head
    have hone : ∃ b ∈ bytesOf "-0123456789".toList, String.utf8EncodeChar c = [b] := by
      fin_cases hc <;> exact ⟨_, by decide, rfl⟩
    obtain ⟨b, hb, hbytes⟩ := hone
    exact ⟨b, hb, bytesOf tail, by rw [bytesOf_cons, hbytes]; rfl⟩
  | _ => exact ⟨_, List.mem_singleton_self _, _, rfl⟩

theorem exists_error_of_bind {α β : Type} {x : Except Fault α} {next : α → Except Fault β}
    (h : ∀ a, ∃ fault, next a = .error fault) : ∃ fault, x >>= next = .error fault := by
  cases x with
  | error fault => exact ⟨fault, rfl⟩
  | ok a => exact h a

/-- A value of another kind than the expected one is never read. -/
theorem exists_refuseValue_error {α : Type} (expected : String) (rest : List UInt8) :
    ∃ fault, (refuseValue expected rest : Except Fault (α × List UInt8)) = .error fault := by
  unfold refuseValue
  split
  · exact ⟨_, rfl⟩
  · split
    · exact exists_error_of_bind fun _ => ⟨_, rfl⟩
    · exact exists_error_of_bind fun _ => ⟨_, rfl⟩
    · exact exists_error_of_bind fun _ => ⟨_, rfl⟩
    · exact exists_error_of_bind fun _ => ⟨_, rfl⟩
    · exact exists_error_of_bind fun _ => ⟨_, rfl⟩
    · exact ⟨_, rfl⟩
    · exact ⟨_, rfl⟩
    · split
      · exact exists_error_of_bind fun _ => ⟨_, rfl⟩
      · exact ⟨_, rfl⟩

theorem skipBlanks_cons {b : UInt8} (h : isBlank b = false) (rest : List UInt8) : skipBlanks (b :: rest) = b :: rest :=
  List.dropWhile_cons_of_neg (by rw [h]; decide)

/-- A reader takes the values of one kind, and refuses all others. -/
structure ReadsKind {α : Type} (read : List UInt8 → Except Fault (α × List UInt8)) (kind? : Value → Option α) : Prop where
  null : kind? .null = none
  reads : ∀ {cs : List Char} {value : Value} {x : α}, Spells cs value → kind? value = some x →
    ∀ rest, read (bytesOf cs ++ rest) = .ok (x, rest)
  refuses : ∀ {value : Value} {b : UInt8}, b ∈ firstBytes value → kind? value = none → value ≠ .null →
    ∀ tail, ∃ fault, read (b :: tail) = .error fault

theorem readsKind_stringValue : ReadsKind stringValue Value.string? where
  null := rfl
  reads := by
    intro cs value text h htext rest
    cases h with
    | @string cs text h =>
      obtain rfl := Option.some.inj htext
      have hbytes : bytesOf ('"' :: (cs ++ ['"'])) ++ rest = quote :: (bytesOf cs ++ quote :: rest) := by
        simp
      rw [hbytes]
      exact stringAfterQuote_of_spellsText h rest
    | _ => cases htext
  refuses := by
    intro value b hb hkind _ tail
    have hquote : b ≠ quote := by
      rintro rfl
      obtain ⟨text, rfl⟩ := eq_string_of_mem_firstBytes hb
      cases hkind
    rw [stringValue, skipBlanks_cons (isBlank_of_mem_firstBytes hb)]
    simp only [if_neg hquote]
    exact exists_refuseValue_error _ _

theorem readsKind_boolValue : ReadsKind boolValue Value.bool? where
  null := rfl
  reads := by
    intro cs value x h hx rest
    cases h with
    | true =>
      obtain rfl := Option.some.inj hx
      have hbytes : bytesOf "true".toList ++ rest = 0x74 :: (bytesOf "rue".toList ++ rest) := rfl
      rw [hbytes, boolValue, skipBlanks_cons rfl]
      simp only [if_pos, wordRest_bytesOf "rue" (by decide)]
      rfl
    | false =>
      obtain rfl := Option.some.inj hx
      have hbytes : bytesOf "false".toList ++ rest = 0x66 :: (bytesOf "alse".toList ++ rest) := rfl
      rw [hbytes, boolValue, skipBlanks_cons rfl]
      simp only [wordRest_bytesOf "alse" (by decide)]
      rfl
    | _ => cases hx
  refuses := by
    intro value b hb hkind _ tail
    have hbool : ¬(b = 0x74 ∨ b = 0x66) := by
      intro h
      obtain ⟨x, rfl⟩ := eq_bool_of_mem_firstBytes hb h
      cases hkind
    rw [not_or] at hbool
    rw [boolValue, skipBlanks_cons (isBlank_of_mem_firstBytes hb)]
    simp only [if_neg hbool.1, if_neg hbool.2]
    exact exists_refuseValue_error _ _

section

variable {α : Type} {read : List UInt8 → Except Fault (α × List UInt8)} {kind? : Value → Option α} {value : Value}
  {front : List UInt8}

theorem optionalValue_null (h : skipBlanks front = bytesOf "null".toList ++ rest) :
    optionalValue read front = .ok (none, rest) := by
  have hbytes : bytesOf "null".toList ++ rest = 0x6E :: (bytesOf "ull".toList ++ rest) := rfl
  rw [optionalValue, h, hbytes]
  simp only [wordRest_bytesOf "ull" (by decide)]
  rfl

theorem optionalValue_of_ne {b : UInt8} {tail : List UInt8} (h : skipBlanks front = b :: tail) (hb : b ≠ 0x6E) :
    optionalValue read front = (read (b :: tail) >>= fun (found, rest) => .ok (some found, rest)) := by
  rw [optionalValue, h]
  split
  · next heq => exact absurd (List.cons.inj heq).1 hb
  · rfl

/-- Where a value may be left out, it is read if it is of the expected kind or `null`, with the blanks around it. -/
theorem optionalValue_of_padded (hread : ReadsKind read kind?) (h : SpellsPadded cs value) (rest : List UInt8) :
    (value = .null ∨ (kind? value).isSome → ∃ rest', skipBlanks rest' = skipBlanks rest ∧
        optionalValue read (bytesOf cs ++ rest) = .ok (kind? value, rest')) ∧
      (¬(value = .null ∨ (kind? value).isSome) →
        ∃ fault, optionalValue read (bytesOf cs ++ rest) = .error fault) := by
  cases h with
  | @padded before spelled after _ hbefore h hafter =>
    obtain ⟨b, hb, tail, hbytes⟩ := exists_first_byte h
    have hskip : skipBlanks (bytesOf (before ++ (spelled ++ after)) ++ rest) =
        bytesOf spelled ++ (bytesOf after ++ rest) := by
      rw [bytesOf_append, bytesOf_append, List.append_assoc, skipBlanks_bytesOf hbefore, List.append_assoc, hbytes,
        List.cons_append, skipBlanks_cons (isBlank_of_mem_firstBytes hb)]
    have hfirst := hskip
    rw [hbytes, List.cons_append] at hfirst
    refine ⟨fun hfits => ⟨bytesOf after ++ rest, skipBlanks_bytesOf hafter rest, ?_⟩, fun hother => ?_⟩
    · by_cases hnull : value = .null
      · subst hnull
        cases h with
        | null => rw [optionalValue_null hskip, hread.null]
      · obtain ⟨x, hx⟩ := Option.isSome_iff_exists.mp (hfits.resolve_left hnull)
        have hnotNull : b ≠ 0x6E := fun hsame => hnull (eq_null_of_mem_firstBytes (hsame ▸ hb))
        rw [optionalValue_of_ne hfirst hnotNull, ← List.cons_append, ← hbytes, hread.reads h hx, hx]
        rfl
    · obtain ⟨hnull, hkind⟩ := not_or.mp hother
      have hnotNull : b ≠ 0x6E := fun hsame => hnull (eq_null_of_mem_firstBytes (hsame ▸ hb))
      obtain ⟨fault, hfault⟩ := hread.refuses hb (Option.not_isSome_iff_eq_none.mp hkind) hnull _
      exact ⟨fault, by rw [optionalValue_of_ne hfirst hnotNull, hfault]; rfl⟩

end

end Bundler.Config
