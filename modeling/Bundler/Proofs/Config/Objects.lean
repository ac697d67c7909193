import Bundler.CommandLine.Run
import Bundler.Proofs.Config.Values

/-!
# Settings objects

A settings file that is an object is read exactly as it is meant: if a key is unknown or stands twice, or a value is of the
wrong kind, then nothing is read at all.

* `readsMembers` — the members that are left are read, or there is a fault in one of them
* `load_object_exact` — the settings of every object text, and no bundle where there are none
-/

namespace Bundler

/-! ## What settings an object gives -/

namespace Config

open Json

/-- A value of the kind that a key takes, or `null`. -/
def Key.Fits : Key → Value → Prop
  | .entry, value | .output, value => value = .null ∨ ∃ text, value = .string text
  | .singleQuote, value => value = .null ∨ ∃ x, value = .bool x

/-- Settings can be made of an object: its keys are known, none stands twice, and every value fits its key. -/
structure IsSettings (members : List (String × Value)) : Prop where
  known : ∀ member ∈ members, ∃ key : Key, key.text = member.1 ∧ key.Fits member.2
  distinct : (members.map Prod.fst).Nodup

/-- The settings of an object. What is absent or `null` is not set. -/
def settingsOf (members : List (String × Value)) : Settings where
  entry := (members.lookup "entry").bind Value.string?
  output := (members.lookup "output").bind Value.string?
  singleQuote := (members.lookup "singleQuote").bind Value.bool?

/-- The settings with the value of one more key. -/
def assign (key : Key) (value : Value) (settings : Settings) : Settings :=
  match key with
  | .entry => { settings with entry := value.string? }
  | .output => { settings with output := value.string? }
  | .singleQuote => { settings with singleQuote := value.bool? }

/-- The settings of further members over those that are there. -/
def settingsOver (settings : Settings) (members : List (String × Value)) : Settings where
  entry := ((members.lookup "entry").map Value.string?).getD settings.entry
  output := ((members.lookup "output").map Value.string?).getD settings.output
  singleQuote := ((members.lookup "singleQuote").map Value.bool?).getD settings.singleQuote

variable {cs : List Char} {text : String} {key : Key} {value : Value} {members : List (String × Value)}
  {settings : Settings} {seen : List Key} {rest front : List UInt8}

theorem Key.ofString?_eq_some_iff : Key.ofString? text = some key ↔ key.text = text := by
  constructor
  · intro h
    have hfound := List.find?_some h
    exact beq_iff_eq.mp hfound
  · rintro rfl
    cases key <;> decide

theorem Key.text_inj {other : Key} : key.text = other.text ↔ key = other := by
  cases key <;> cases other <;> decide

theorem getD_map_none {α β : Type} (x : Option α) (f : α → Option β) : (x.map f).getD none = x.bind f := by
  cases x <;> rfl

theorem settingsOver_noSettings (members : List (String × Value)) :
    settingsOver noSettings members = settingsOf members := by
  simp only [settingsOver, settingsOf, noSettings, getD_map_none]

/-- The first value of a key counts, and there is no other. -/
theorem settingsOver_cons (h : key.text ∉ members.map Prod.fst) (value : Value) (settings : Settings) :
    settingsOver settings ((key.text, value) :: members) = settingsOver (assign key value settings) members := by
  have hnone : members.lookup key.text = none := by
    refine List.lookup_eq_none_iff.mpr fun member hmember => bne_iff_ne.mpr ?_
    rintro hsame
    exact h (hsame ▸ List.mem_map_of_mem hmember)
  cases key with
  | entry | output | singleQuote =>
    simp only [Key.text] at hnone
    simp [settingsOver, assign, Key.text, List.lookup_cons, hnone]

/-- What is asked of the first member, and what is left for the others. -/
theorem isSettings_cons_iff :
    (IsSettings ((text, value) :: members) ∧ ∀ key ∈ seen, key.text ∉ text :: members.map Prod.fst) ↔
      ∃ key : Key, key.text = text ∧ key ∉ seen ∧ key.Fits value ∧ key.text ∉ members.map Prod.fst ∧
        IsSettings members ∧ ∀ other ∈ key :: seen, other.text ∉ members.map Prod.fst := by
  constructor
  · rintro ⟨⟨hknown, hdistinct⟩, hunseen⟩
    obtain ⟨⟨key, rfl, hfits⟩, hothers⟩ := List.forall_mem_cons.mp hknown
    obtain ⟨hfresh, hdistinct⟩ := List.nodup_cons.mp hdistinct
    refine ⟨key, rfl, fun hseen => hunseen key hseen List.mem_cons_self, hfits, hfresh, ⟨hothers, hdistinct⟩, ?_⟩
    exact List.forall_mem_cons.mpr
      ⟨hfresh, fun other hother hmem => hunseen other hother (List.mem_cons_of_mem _ hmem)⟩
  · rintro ⟨key, rfl, hunseen, hfits, hfresh, ⟨hknown, hdistinct⟩, hothers⟩
    refine ⟨⟨List.forall_mem_cons.mpr ⟨⟨key, rfl, hfits⟩, hknown⟩, List.nodup_cons.mpr ⟨hfresh, hdistinct⟩⟩, ?_⟩
    intro other hother hmem
    rcases List.mem_cons.mp hmem with hsame | hmem
    · exact hunseen (Key.text_inj.mp hsame ▸ hother)
    · exact hothers other (List.mem_cons_of_mem _ hother) hmem

/-- There are only three keys. -/
theorem IsSettings.length_le (h : IsSettings members) : members.length ≤ 3 := by
  have hsubset : members.map Prod.fst ⊆ [Key.entry, .output, .singleQuote].map Key.text := by
    intro text htext
    obtain ⟨member, hmember, rfl⟩ := List.mem_map.mp htext
    obtain ⟨key, hkey, -⟩ := h.known member hmember
    refine List.mem_map.mpr ⟨key, ?_, hkey⟩
    cases key <;> decide
  have hle := (h.distinct.subperm hsubset).length_le
  rwa [List.length_map] at hle

/-! ## Members -/

theorem isSome_string?_iff : value.string?.isSome ↔ ∃ text, value = .string text := by
  cases value <;> simp [Value.string?]

theorem isSome_bool?_iff : value.bool?.isSome ↔ ∃ x, value = .bool x := by
  cases value <;> simp [Value.bool?]

/-- The value of a key is read if it fits the key. -/
theorem keyValue_of_padded (h : SpellsPadded cs value) (key : Key) (settings : Settings) (rest : List UInt8) :
    (key.Fits value → ∃ rest', skipBlanks rest' = skipBlanks rest ∧
        keyValue key settings (bytesOf cs ++ rest) = .ok (assign key value settings, rest')) ∧
      (¬key.Fits value → ∃ fault, keyValue key settings (bytesOf cs ++ rest) = .error fault) := by
  obtain ⟨htext, hnoText⟩ := optionalValue_of_padded readsKind_stringValue h rest
  obtain ⟨hbool, hnoBool⟩ := optionalValue_of_padded readsKind_boolValue h rest
  rw [isSome_string?_iff] at htext hnoText
  rw [isSome_bool?_iff] at hbool hnoBool
  cases key with
  | entry | output =>
    refine ⟨fun hfits => ?_, fun hother => ?_⟩
    · obtain ⟨rest', hblanks, hread⟩ := htext hfits
      exact ⟨rest', hblanks, by rw [keyValue, hread]; rfl⟩
    · obtain ⟨fault, hfault⟩ := hnoText hother
      exact ⟨fault, by rw [keyValue, hfault]; rfl⟩
  | singleQuote =>
    refine ⟨fun hfits => ?_, fun hother => ?_⟩
    · obtain ⟨rest', hblanks, hread⟩ := hbool hfits
      exact ⟨rest', hblanks, by rw [keyValue, hread]; rfl⟩
    · obtain ⟨fault, hfault⟩ := hnoBool hother
      exact ⟨fault, by rw [keyValue, hfault]; rfl⟩

/-- Where the next member is due: at once if it is the first, and else behind a comma. -/
def IsDue (isFirst : Bool) (front member : List UInt8) : Prop :=
  skipBlanks front = if isFirst then skipBlanks member else 0x2C :: member

theorem nextKey_of_isDue {isFirst : Bool} {before : List Char} (hbefore : IsBlanks before)
    (h : IsDue isFirst front (bytesOf before ++ quote :: rest)) : nextKey isFirst front = .ok (some (), rest) := by
  have hskip : skipBlanks (bytesOf before ++ quote :: rest) = quote :: rest := by
    rw [skipBlanks_bytesOf hbefore, skipBlanks_cons rfl]
  rw [IsDue, hskip] at h
  cases isFirst with
  | true =>
    rw [nextKey, h]
    rfl
  | false => simp [nextKey, h, hskip]

theorem nextKey_of_end (isFirst : Bool) (h : skipBlanks front = 0x7D :: rest) :
    nextKey isFirst front = .ok (none, 0x7D :: rest) := by
  rw [nextKey, h]
  rfl

theorem colon_of_blanks {between : List Char} (h : IsBlanks between) (rest : List UInt8) :
    colon (bytesOf between ++ 0x3A :: rest) = .ok ((), rest) := by
  rw [colon, skipBlanks_bytesOf h, skipBlanks_cons rfl]
  rfl

theorem objectBody_of_end (h : skipBlanks front = 0x7D :: rest) (fuel : Nat) :
    objectBody (fuel + 1) seen settings front = .ok (settings, 0x7D :: rest) := by
  rw [objectBody, nextKey_of_end _ h]
  rfl

/-- One member is read if its key is known and did not occur yet, and its value fits. -/
theorem objectBody_of_member (h : SpellsMember cs (text, value)) (hdue : IsDue seen.isEmpty front (bytesOf cs ++ rest))
    (fuel : Nat) :
    (∀ key : Key, key.text = text → key ∉ seen → key.Fits value → ∃ front', skipBlanks front' = skipBlanks rest ∧
        objectBody (fuel + 1) seen settings front =
          objectBody fuel (key :: seen) (assign key value settings) front') ∧
      ((¬∃ key : Key, key.text = text ∧ key ∉ seen ∧ key.Fits value) →
        ∃ fault, objectBody (fuel + 1) seen settings front = .error fault) := by
  cases h with
  | @member before key text between cs _ hbefore hkey hbetween h =>
    have hbytes : bytesOf (before ++ '"' :: (key ++ '"' :: (between ++ ':' :: cs))) ++ rest =
        bytesOf before ++ quote :: (bytesOf key ++ quote :: (bytesOf between ++ 0x3A :: (bytesOf cs ++ rest))) := by
      simp
    rw [hbytes] at hdue
    simp only [objectBody, nextKey_of_isDue hbefore hdue, stringAfterQuote_of_spellsText hkey, bind, Except.bind]
    refine ⟨fun known htext hunseen hfits => ?_, fun hnone => ?_⟩
    · obtain ⟨front', hblanks, hread⟩ := (keyValue_of_padded h known settings rest).1 hfits
      refine ⟨front', hblanks, ?_⟩
      simp only [Key.ofString?_eq_some_iff.mpr htext, if_neg hunseen, colon_of_blanks hbetween, hread]
    · cases hfound : Key.ofString? (String.ofList text) with
      | none => exact ⟨_, rfl⟩
      | some known =>
        by_cases hseen : known ∈ seen
        · exact ⟨_, if_pos hseen⟩
        · have hother : ¬known.Fits value :=
            fun hfits => hnone ⟨known, Key.ofString?_eq_some_iff.mp hfound, hseen, hfits⟩
          obtain ⟨fault, hfault⟩ := (keyValue_of_padded h known settings rest).2 hother
          exact ⟨fault, by simp only [if_neg hseen, colon_of_blanks hbetween, hfault]⟩

/-- The members that are left are read: all of them if settings can be made of them and none of their keys occurred
before, and else none. -/
structure ReadsMembers (fuel : Nat) (seen : List Key) (settings : Settings) (front rest : List UInt8)
    (members : List (String × Value)) : Prop where
  all : IsSettings members ∧ (∀ key ∈ seen, key.text ∉ members.map Prod.fst) → members.length < fuel →
    objectBody fuel seen settings front = .ok (settingsOver settings members, 0x7D :: rest)
  none : ¬(IsSettings members ∧ ∀ key ∈ seen, key.text ∉ members.map Prod.fst) →
    ∃ fault, objectBody fuel seen settings front = .error fault

namespace ReadsMembers

variable {fuel : Nat} {after : List UInt8}

theorem nil (h : skipBlanks front = 0x7D :: rest) : ReadsMembers fuel seen settings front rest [] where
  all := by
    intro _ hfuel
    obtain ⟨fuel, rfl⟩ := Nat.exists_eq_add_one_of_ne_zero (Nat.ne_of_gt hfuel)
    exact objectBody_of_end h fuel
  none := fun hnot => absurd ⟨⟨by simp, List.nodup_nil⟩, by simp⟩ hnot

theorem cons (h : SpellsMember cs (text, value)) (hdue : IsDue seen.isEmpty front (bytesOf cs ++ after))
    (hafter : ∀ (key : Key) front', skipBlanks front' = skipBlanks after →
      ReadsMembers fuel (key :: seen) (assign key value settings) front' rest members) :
    ReadsMembers (fuel + 1) seen settings front rest ((text, value) :: members) where
  all := by
    rw [List.map_cons, isSettings_cons_iff]
    rintro ⟨key, rfl, hunseen, hfits, hfresh, hothers⟩ hfuel
    obtain ⟨front', hblanks, hread⟩ := (objectBody_of_member h hdue fuel).1 key rfl hunseen hfits
    rw [hread, settingsOver_cons hfresh]
    exact (hafter key front' hblanks).all hothers (Nat.lt_of_succ_lt_succ hfuel)
  none := by
    rw [List.map_cons, isSettings_cons_iff]
    intro hnot
    by_cases hmember : ∃ key : Key, key.text = text ∧ key ∉ seen ∧ key.Fits value
    · -- The member itself is read, so the fault is in what follows.
      obtain ⟨key, rfl, hunseen, hfits⟩ := hmember
      obtain ⟨front', hblanks, hread⟩ := (objectBody_of_member h hdue fuel).1 key rfl hunseen hfits
      rw [hread]
      refine (hafter key front' hblanks).none fun hothers => hnot ⟨key, rfl, hunseen, hfits, ?_, hothers⟩
      exact hothers.2 key List.mem_cons_self
    · exact (objectBody_of_member h hdue fuel).2 hmember

end ReadsMembers

/-- **The members of an object are read.** -/
theorem readsMembers (h : SpellsMembers cs members) (fuel : Nat)
    (hdue : IsDue seen.isEmpty front (bytesOf cs ++ 0x7D :: rest)) :
    ReadsMembers fuel seen settings front rest members := by
  induction members generalizing cs seen settings front fuel with
  | nil => cases h
  | cons member members ih =>
    obtain ⟨text, value⟩ := member
    cases fuel with
    | zero => exact ⟨fun _ hfuel => absurd hfuel (Nat.not_lt_zero _), fun _ => ⟨_, rfl⟩⟩
    | succ fuel =>
      cases h with
      | last h => exact .cons h hdue fun key front' hblanks => .nil (hblanks.trans (skipBlanks_cons rfl rest))
      | next h hmore =>
        rw [bytesOf_append, bytesOf_comma, List.append_assoc, List.cons_append] at hdue
        refine .cons h hdue fun key front' hblanks => ih hmore fuel ?_
        exact hblanks.trans (skipBlanks_cons rfl _)

/-! ## Files -/

/-- An object is read from its brace on. -/
theorem exists_readsMembers (h : Spells cs (.object members)) (rest : List UInt8) :
    ∃ front, bytesOf cs ++ rest = 0x7B :: front ∧ ReadsMembers 4 [] noSettings front rest members := by
  cases h with
  | @emptyObject blanks h =>
    refine ⟨bytesOf blanks ++ 0x7D :: rest, by simp, .nil ?_⟩
    rw [skipBlanks_bytesOf h, skipBlanks_cons rfl]
  | @object body _ h => exact ⟨bytesOf body ++ 0x7D :: rest, by simp, readsMembers h 4 rfl⟩

theorem closeObject_cons (rest : List UInt8) : closeObject (0x7D :: rest) = .ok ((), rest) := by
  rw [closeObject, skipBlanks_cons rfl]
  rfl

/-- The bytes of an object give its settings, if settings can be made of it. -/
theorem settingsBytes_of_object (h : IsObjectText text members) :
    (IsSettings members → settingsBytes (Utf8.encode text) = .ok (settingsOf members)) ∧
      (¬IsSettings members → ∃ fault, settingsBytes (Utf8.encode text) = .error fault) := by
  rw [encode_eq_bytesOf]
  generalize hchars : text.toList = chars at h
  have hspelled : SpellsPadded chars (.object members) := hchars ▸ h
  cases hspelled with
  | @padded before cs after _ hbefore h hafter =>
    obtain ⟨front, hfront, hreads⟩ := exists_readsMembers h (bytesOf after)
    have hskip : skipBlanks (bytesOf (before ++ (cs ++ after))) = 0x7B :: front := by
      rw [bytesOf_append, bytesOf_append, skipBlanks_bytesOf hbefore, hfront, skipBlanks_cons rfl]
    have hend : skipBlanks (bytesOf after) = [] := by
      have hblanks := skipBlanks_bytesOf hafter []
      rwa [List.append_nil] at hblanks
    refine ⟨fun hsettings => ?_, fun hnot => ?_⟩
    · have hread := hreads.all ⟨hsettings, by simp⟩ (Nat.lt_succ_of_le hsettings.length_le)
      rw [settingsOver_noSettings] at hread
      simp only [settingsBytes, hskip, object, hread, closeObject_cons, hend, bind, Except.bind]
    · obtain ⟨fault, hfault⟩ := hreads.none fun hsettings => hnot hsettings.1
      exact ⟨fault, by simp only [settingsBytes, hskip, object, hfault, bind, Except.bind]⟩

theorem parse_of_object (h : IsObjectText text members) :
    (IsSettings members → parse text = .ok (settingsOf members)) ∧
      (¬IsSettings members → ∃ message, parse text = .error (.config message)) := by
  obtain ⟨hok, herror⟩ := settingsBytes_of_object h
  refine ⟨fun hsettings => ?_, fun hnot => ?_⟩
  · simp only [parse, hok hsettings]
  · obtain ⟨fault, hfault⟩ := herror hnot
    exact ⟨_, by simp only [parse, hfault]; rfl⟩

theorem load_of_parse {directory : Path} {result : Except Failure Settings} (h : parse text = result) :
    load directory (some (.ok text)) = ([.loadingSettings (settingsPath directory)], result.map some) := by
  rw [load, h]

end Config

/-- Where no settings can be loaded, a command does nothing but say so. -/
theorem CommandLine.run_of_load_error {State : Type} {files : FileSystem State} {processor : Bool → Processor}
    {directory : Path} {file : Option (Except StoreError String)} {loading : List Event} {failure : Failure}
    (h : Config.load directory file = (loading, .error failure)) (command : Command) (state : State) :
    command.run files processor directory file state =
      ⟨state, loading.map .logged, .error (.ofFailure failure)⟩ := by
  rw [Command.run, Command.options, h]
  rfl

/--
**No key of a settings object is ignored.**

Let the text of the settings file be that of an object, with any blanks, escapes, order of its members and values inside
values. Settings are loaded exactly if every key is known, no key stands twice, and `entry` and `output` are strings or
`null` and `singleQuote` is a boolean or `null`; and then they are what the object gives, and nothing where a key is absent or
`null`. Else loading fails with a fault of the settings, and a command run with this file fails with it: it reads and writes
nothing, and leaves the state as it is.
-/
theorem load_object_exact (directory : Path) (text : String) (members : List (String × Json.Value))
    (h : Json.IsObjectText text members) :
    (∀ settings, (Config.load directory (some (.ok text))).2 = .ok (some settings) ↔
      Config.IsSettings members ∧ settings = Config.settingsOf members) ∧
    (¬Config.IsSettings members →
      ∃ message, (Config.load directory (some (.ok text))).2 = .error (.config message) ∧
        ∀ {State : Type} (files : FileSystem State) (processor : Bool → Processor) (command : CommandLine.Command)
          (state : State),
          let run := command.run files processor directory (some (.ok text)) state
          run.state = state ∧ Action.reads run.actions = [] ∧ Action.writes run.actions = [] ∧
            run.result = .error (.ofFailure (.config message))) := by
  obtain ⟨hok, herror⟩ := Config.parse_of_object h
  refine ⟨fun settings => ?_, fun hnot => ?_⟩
  · by_cases hsettings : Config.IsSettings members
    · rw [Config.load_of_parse (hok hsettings)]
      constructor
      · intro hload
        exact ⟨hsettings, (Option.some.inj (Except.ok.inj hload)).symm⟩
      · rintro ⟨-, rfl⟩
        rfl
    · obtain ⟨message, hmessage⟩ := herror hsettings
      rw [Config.load_of_parse hmessage]
      exact iff_of_false nofun fun h => hsettings h.1
  · obtain ⟨message, hmessage⟩ := herror hnot
    have hload : Config.load directory (some (.ok text)) = _ := Config.load_of_parse hmessage
    refine ⟨message, by rw [hload]; rfl, fun files processor command state => ?_⟩
    rw [CommandLine.run_of_load_error hload]
    exact ⟨rfl, Action.reads_map_logged _, Action.writes_map_logged _, rfl⟩

/-! Two members, of which the first has escapes in its key and in its value, and the second is `null`. -/

namespace Escaped

open Json

def textWith (second : String) : String :=
  "\x7b\"\\u0065ntry\" :\"a\\/b\",\"" ++ second ++ "\":null\x7d"

def membersWith (second : String) : List (String × Value) :=
  [("entry", .string "a/b"), (second, .null)]

theorem spells_key : SpellsText "\\u0065ntry".toList "entry".toList := by
  have hunit : SpellsUnit ['0', '0', '6', '5'] (((0 * 16 + 0) * 16 + 6) * 16 + 5) :=
    .digits (by decide) (by decide) (by decide) (by decide)
  have hletter : SpellsChar ['\\', 'u', '0', '0', '6', '5'] 'e' := .escaped (.unit hunit (by decide))
  have hrest : SpellsText ['n', 't', 'r', 'y'] ['n', 't', 'r', 'y'] := .refl (by simp)
  exact .cons hletter hrest

theorem spells_value : SpellsText "a\\/b".toList "a/b".toList := by
  have hletter : SpellsChar ['a'] 'a' := .plain (by decide) (by decide) (by decide)
  have hslash : SpellsChar ['\\', '/'] '/' := .escaped (.short (by decide))
  have hrest : SpellsText ['b'] ['b'] := .refl (by simp)
  exact .cons hletter (.cons hslash hrest)

theorem isObjectText (second : String) (h : ∀ c ∈ second.toList, c ≠ '"' ∧ c ≠ '\\' ∧ 0x20 ≤ c.toNat) :
    IsObjectText (textWith second) (membersWith second) := by
  have hnone : IsBlanks [] := by simp [IsBlanks]
  have hblank : IsBlanks [' '] := by simp [IsBlanks]
  have hfirst := SpellsMember.member hnone spells_key hblank (.padded hnone (.string spells_value) hnone)
  have hsecond := SpellsMember.member hnone (SpellsText.refl h) hnone (.padded hnone .null hnone)
  have hobject := SpellsPadded.padded hnone (Spells.object (.next hfirst (.last hsecond))) hnone
  have hbefore : "\x7b\"\\u0065ntry\" :\"a\\/b\",\"".toList =
      '\x7b' :: '"' :: ("\\u0065ntry".toList ++ '"' :: ' ' :: ':' :: '"' :: ("a\\/b".toList ++ ['"', ',', '"'])) := by
    decide
  have hafter : "\":null\x7d".toList = '"' :: ':' :: ("null".toList ++ ['\x7d']) := by decide
  unfold textWith
  rw [IsObjectText, membersWith, String.toList_append, String.toList_append, hbefore, hafter]
  simpa only [String.ofList_toList, List.append_nil, List.nil_append, List.append_assoc, List.cons_append] using hobject

end Escaped

/-- With `output` as its second key the object gives settings; with `entry`, which the first key spells, it gives none. -/
theorem load_object_exact_escaped :
    (Config.load (.ofString "/app") (some (.ok (Escaped.textWith "output")))).2 =
      .ok (some ⟨some "a/b", none, none⟩) ∧
    ∃ message, (Config.load (.ofString "/app") (some (.ok (Escaped.textWith "entry")))).2 = .error (.config message) := by
  have houtput := Escaped.isObjectText "output" (by simp)
  have hentry := Escaped.isObjectText "entry" (by simp)
  have hknown : ∀ member ∈ Escaped.membersWith "output", ∃ key : Config.Key, key.text = member.1 ∧ key.Fits member.2 :=
    List.forall_mem_cons.mpr ⟨⟨.entry, rfl, .inr ⟨_, rfl⟩⟩, List.forall_mem_cons.mpr ⟨⟨.output, rfl, .inl rfl⟩, by simp⟩⟩
  have hrepeated : ¬Config.IsSettings (Escaped.membersWith "entry") := fun h => absurd h.distinct (by decide)
  refine ⟨((load_object_exact _ _ _ houtput).1 _).mpr ⟨⟨hknown, by decide⟩, by rfl⟩, ?_⟩
  obtain ⟨message, hmessage, -⟩ := (load_object_exact (.ofString "/app") _ _ hentry).2 hrepeated
  exact ⟨message, hmessage⟩

end Bundler
