/-!
# JSON

How values are spelled as JSON texts: the grammar, as relations between characters and what they stand for. A value is
spelled in many ways, with any blanks between its parts and with or without escapes in its strings. The members of an object
keep their order, and a key may stand there twice.

Halves of surrogate pairs stand for a character only together, so a text in which one stands alone spells nothing.
-/

namespace Bundler.Json

/-- A value that a text may spell. A number is not more than its digits here. -/
inductive Value where
  | null
  | bool (value : Bool)
  | number (spelling : String)
  | string (text : String)
  | list (values : List Value)
  | object (members : List (String × Value))

/-- The text of a string. -/
def Value.string? : Value → Option String
  | string text => some text
  | _ => none

/-- What a boolean says. -/
def Value.bool? : Value → Option Bool
  | bool value => some value
  | _ => none

/-- Characters that mean nothing between the parts of a text. -/
def IsBlanks (cs : List Char) : Prop :=
  ∀ c ∈ cs, c ∈ [' ', '\t', '\n', '\r']

/-! ## Strings -/

/-- The hexadecimal digits with their values. -/
def hexValues : List (Char × Nat) :=
  "0123456789abcdef".toList.zipIdx ++ "ABCDEF".toList.zipIdx 10

/-- The letters that stand for a character behind `\`. -/
def shortEscapes : List (Char × Char) :=
  [('"', '"'), ('\\', '\\'), ('/', '/'), ('b', '\x08'), ('f', '\x0c'), ('n', '\n'), ('r', '\r'), ('t', '\t')]

/-- Four hexadecimal digits spell a number below 65536. -/
inductive SpellsUnit : List Char → Nat → Prop
  | digits {a b c d : Char} {w x y z : Nat} (ha : (a, w) ∈ hexValues) (hb : (b, x) ∈ hexValues) (hc : (c, y) ∈ hexValues)
      (hd : (d, z) ∈ hexValues) : SpellsUnit [a, b, c, d] (((w * 16 + x) * 16 + y) * 16 + z)

/-- What stands behind `\`, and the character it spells. -/
inductive SpellsEscape : List Char → Char → Prop
  | short {letter c : Char} (h : (letter, c) ∈ shortEscapes) : SpellsEscape [letter] c
  | unit {cs : List Char} {n : Nat} (h : SpellsUnit cs n) (hsurrogate : n < 0xD800 ∨ 0xDFFF < n) :
      SpellsEscape ('u' :: cs) (Char.ofNat n)
  | pair {cs cs' : List Char} {high low : Nat} (h : SpellsUnit cs high) (h' : SpellsUnit cs' low)
      (hhigh : 0xD800 ≤ high ∧ high ≤ 0xDBFF) (hlow : 0xDC00 ≤ low ∧ low ≤ 0xDFFF) :
      SpellsEscape ('u' :: (cs ++ '\\' :: 'u' :: cs'))
        (Char.ofNat (0x10000 + (high - 0xD800) * 0x400 + (low - 0xDC00)))

/-- One character of a string: any but quotes, backslashes and controls spells itself. -/
inductive SpellsChar : List Char → Char → Prop
  | plain {c : Char} (hquote : c ≠ '"') (hbackslash : c ≠ '\\') (hcontrol : 0x20 ≤ c.toNat) : SpellsChar [c] c
  | escaped {cs : List Char} {c : Char} (h : SpellsEscape cs c) : SpellsChar ('\\' :: cs) c

/-- What stands between the quotes of a string, and the text it spells. -/
inductive SpellsText : List Char → List Char → Prop
  | nil : SpellsText [] []
  | cons {cs rest text : List Char} {c : Char} (h : SpellsChar cs c) (hrest : SpellsText rest text) :
      SpellsText (cs ++ rest) (c :: text)

/-- A text that needs no escapes spells itself. -/
theorem SpellsText.refl {cs : List Char} (h : ∀ c ∈ cs, c ≠ '"' ∧ c ≠ '\\' ∧ 0x20 ≤ c.toNat) : SpellsText cs cs := by
  induction cs with
  | nil => exact .nil
  | cons c cs ih =>
    obtain ⟨hquote, hbackslash, hcontrol⟩ := h c List.mem_cons_self
    exact .cons (.plain hquote hbackslash hcontrol) (ih fun d hd => h d (List.mem_cons_of_mem _ hd))

/-! ## Numbers -/

def AreDigits (cs : List Char) : Prop :=
  cs ≠ [] ∧ ∀ c ∈ cs, c ∈ "0123456789".toList

/-- Whole digits do not begin with a zero, unless that is all. -/
def IsWhole (cs : List Char) : Prop :=
  AreDigits cs ∧ (cs.head? = some '0' → cs = ['0'])

def IsFraction (cs : List Char) : Prop :=
  cs = [] ∨ ∃ digits, AreDigits digits ∧ cs = '.' :: digits

def IsExponent (cs : List Char) : Prop :=
  cs = [] ∨ ∃ mark ∈ ['e', 'E'], ∃ sign ∈ [[], ['+'], ['-']], ∃ digits, AreDigits digits ∧ cs = mark :: (sign ++ digits)

inductive IsNumber : List Char → Prop
  | parts {sign whole fraction exponent : List Char} (hsign : sign ∈ [[], ['-']]) (hwhole : IsWhole whole)
      (hfraction : IsFraction fraction) (hexponent : IsExponent exponent) :
      IsNumber (sign ++ (whole ++ (fraction ++ exponent)))

/-- A number begins with its sign or with a digit. -/
theorem IsNumber.exists_head {cs : List Char} (h : IsNumber cs) : ∃ c tail, cs = c :: tail ∧ c ∈ "-0123456789".toList := by
  cases h with
  | @parts sign whole _ _ hsign hwhole =>
    obtain ⟨⟨hsome, hdigits⟩, -⟩ := hwhole
    obtain ⟨c, later, rfl⟩ := List.exists_cons_of_ne_nil hsome
    simp only [List.mem_cons, List.not_mem_nil, or_false] at hsign
    rcases hsign with rfl | rfl
    · exact ⟨c, _, rfl, List.mem_cons_of_mem _ (hdigits c List.mem_cons_self)⟩
    · exact ⟨'-', _, rfl, List.mem_cons_self⟩

/-! ## Values -/

mutual

/-- The characters of a value. -/
inductive Spells : List Char → Value → Prop
  | null : Spells "null".toList .null
  | true : Spells "true".toList (.bool Bool.true)
  | false : Spells "false".toList (.bool Bool.false)
  | number {cs : List Char} (h : IsNumber cs) : Spells cs (.number (String.ofList cs))
  | string {cs text : List Char} (h : SpellsText cs text) : Spells ('"' :: (cs ++ ['"'])) (.string (String.ofList text))
  | emptyList {blanks : List Char} (h : IsBlanks blanks) : Spells ('[' :: (blanks ++ [']'])) (.list [])
  | list {cs : List Char} {values : List Value} (h : SpellsElements cs values) :
      Spells ('[' :: (cs ++ [']'])) (.list values)
  | emptyObject {blanks : List Char} (h : IsBlanks blanks) : Spells ('\x7b' :: (blanks ++ ['\x7d'])) (.object [])
  | object {cs : List Char} {members : List (String × Value)} (h : SpellsMembers cs members) :
      Spells ('\x7b' :: (cs ++ ['\x7d'])) (.object members)

/-- The characters of a value with blanks around it. -/
inductive SpellsPadded : List Char → Value → Prop
  | padded {before cs after : List Char} {value : Value} (hbefore : IsBlanks before) (h : Spells cs value)
      (hafter : IsBlanks after) : SpellsPadded (before ++ (cs ++ after)) value

/-- The elements of a list, with commas between them. -/
inductive SpellsElements : List Char → List Value → Prop
  | last {cs : List Char} {value : Value} (h : SpellsPadded cs value) : SpellsElements cs [value]
  | next {cs rest : List Char} {value : Value} {values : List Value} (h : SpellsPadded cs value)
      (hrest : SpellsElements rest values) : SpellsElements (cs ++ ',' :: rest) (value :: values)

/-- A key and its value. -/
inductive SpellsMember : List Char → String × Value → Prop
  | member {before key text between cs : List Char} {value : Value} (hbefore : IsBlanks before) (hkey : SpellsText key text)
      (hbetween : IsBlanks between) (h : SpellsPadded cs value) :
      SpellsMember (before ++ '"' :: (key ++ '"' :: (between ++ ':' :: cs))) (String.ofList text, value)

/-- The members of an object, with commas between them. -/
inductive SpellsMembers : List Char → List (String × Value) → Prop
  | last {cs : List Char} {member : String × Value} (h : SpellsMember cs member) : SpellsMembers cs [member]
  | next {cs rest : List Char} {member : String × Value} {members : List (String × Value)} (h : SpellsMember cs member)
      (hrest : SpellsMembers rest members) : SpellsMembers (cs ++ ',' :: rest) (member :: members)

end

/-- The text is that of an object with these members: blanks may stand around it, and nothing else. -/
def IsObjectText (text : String) (members : List (String × Value)) : Prop :=
  SpellsPadded text.toList (.object members)

end Bundler.Json
