import Bundler.Bundle.Run
import Bundler.Config.Scalar

/-!
# Settings

A settings file is an object with the keys `entry`, `output` and `singleQuote`, each at most once and each possibly
`null`, or a list of the three values in this order. Nothing else is accepted, so that no key is ignored. What the
command line gives wins over the file, and the file over the defaults.
-/

namespace Bundler

/-- The settings of a file; what it does not give is `none`. -/
structure Settings where
  entry : Option String
  output : Option String
  singleQuote : Option Bool
  deriving DecidableEq, Inhabited, Repr

namespace Config

/-- The file that holds the settings, in the current directory. -/
def fileName : String := "knit.config.json"

/-- Where the bundle goes if nobody says. -/
def defaultOutput : String := "bundle.js"

def noSettings : Settings :=
  ⟨none, none, none⟩

/-- The keys of a settings file. -/
inductive Key where
  | entry
  | output
  | singleQuote
  deriving DecidableEq, Inhabited, Repr

def Key.text : Key → String
  | .entry => "entry"
  | .output => "output"
  | .singleQuote => "singleQuote"

def Key.ofString? (text : String) : Option Key :=
  [Key.entry, .output, .singleQuote].find? fun key => key.text == text

/-! ## Objects -/

/-- Reads the colon behind a key. -/
def colon (rest : List UInt8) : Except Fault (Unit × List UInt8) :=
  match skipBlanks rest with
  | [] => faultOver .unclosedObject []
  | b :: tail => if b = 0x3A then .ok ((), tail) else faultOver .expectedColon (b :: tail)

/-- Reads the value of a key into the settings. -/
def keyValue (key : Key) (settings : Settings) (rest : List UInt8) : Except Fault (Settings × List UInt8) :=
  match key with
  | .entry => do
    let (value, rest) ← optionalValue stringValue rest
    .ok ({ settings with entry := value }, rest)
  | .output => do
    let (value, rest) ← optionalValue stringValue rest
    .ok ({ settings with output := value }, rest)
  | .singleQuote => do
    let (value, rest) ← optionalValue boolValue rest
    .ok ({ settings with singleQuote := value }, rest)

/-- Where a fault of meaning in an object gets its place: behind the blanks, and behind the brace if one follows. -/
def giveUpObject (rest : List UInt8) : Nat :=
  match skipBlanks rest with
  | 0x7D :: tail => tail.length
  | rest => rest.length

/-- Goes from the brace, or the last value, to the next key; `none` if the object ends instead. -/
def nextKey (isFirst : Bool) (rest : List UInt8) : Except Fault (Option Unit × List UInt8) :=
  match skipBlanks rest with
  | [] => faultOver .unclosedObject []
  | b :: tail =>
    if b = 0x7D then .ok (none, b :: tail)
    else if b = 0x2C && !isFirst then
      match skipBlanks tail with
      | [] => faultOver .missingValue []
      | c :: tail =>
        if c = quote then .ok (some (), tail)
        else if c = 0x7D then faultOver .trailingComma (c :: tail)
        else faultOver .keyNotString (c :: tail)
    else if isFirst then
      if b = quote then .ok (some (), tail) else faultOver .keyNotString (b :: tail)
    else faultOver .expectedObjectComma (b :: tail)

/-- Reads the keys that are left and their values; every key is read once, so `fuel` four is enough. -/
def objectBody : Nat → List Key → Settings → List UInt8 → Except Fault (Settings × List UInt8)
  | 0, _, _, rest => faultOver .unclosedObject rest
  | fuel + 1, seen, settings, rest => do
    let (more, rest) ← nextKey seen.isEmpty rest
    match more with
    | none => .ok (settings, rest)
    | some () =>
      let (text, rest) ← stringAfterQuote rest
      match Key.ofString? text with
      | none => .error (.meaning (.unknownKey text) (giveUpObject rest))
      | some key =>
        if key ∈ seen then .error (.meaning (.repeatedKey text) (giveUpObject rest))
        else
          let ((), rest) ← colon rest
          let (settings, rest) ← keyValue key settings rest
          objectBody fuel (key :: seen) settings rest

/-- Reads the brace that closes an object. -/
def closeObject (rest : List UInt8) : Except Fault (Unit × List UInt8) :=
  match skipBlanks rest with
  | [] => faultOver .unclosedObject []
  | b :: tail =>
    if b = 0x7D then .ok ((), tail)
    else if b = 0x2C then faultOver .trailingComma (b :: tail)
    else faultOver .trailingCharacters (b :: tail)

/-- Reads an object whose brace is read. -/
def object (rest : List UInt8) : Except Fault (Settings × List UInt8) := do
  let (settings, rest) ← objectBody 4 [] noSettings rest
  let ((), rest) ← closeObject rest
  .ok (settings, rest)

/-! ## Lists -/

/-- Goes to the next element of a list; `none` if the list ends instead. -/
def nextElement (isFirst : Bool) (rest : List UInt8) : Except Fault (Option Unit × List UInt8) :=
  match skipBlanks rest with
  | [] => faultOver .unclosedList []
  | b :: tail =>
    if b = 0x5D then .ok (none, b :: tail)
    else if b = 0x2C && !isFirst then
      match skipBlanks tail with
      | [] => faultOver .missingValue []
      | c :: tail => if c = 0x5D then faultOver .trailingComma (c :: tail) else .ok (some (), c :: tail)
    else if isFirst then .ok (some (), b :: tail)
    else faultOver .expectedListComma (b :: tail)

/-- Reads the bracket that closes a list. -/
def closeList (rest : List UInt8) : Except Fault (Unit × List UInt8) :=
  match skipBlanks rest with
  | [] => faultOver .unclosedList []
  | b :: tail =>
    if b = 0x5D then .ok ((), tail)
    else if b = 0x2C then
      match skipBlanks tail with
      | 0x5D :: tail => faultOver .trailingComma (0x5D :: tail)
      | rest => faultOver .trailingCharacters rest
    else faultOver .trailingCharacters (b :: tail)

/-- Reads the values of a list in the order of the keys. -/
def listBody : Nat → List Key → Settings → List UInt8 → Except Fault (Settings × List UInt8)
  | _, [], settings, rest => .ok (settings, rest)
  | index, key :: keys, settings, rest => do
    let (more, rest) ← nextElement (index == 0) rest
    match more with
    | none => .error (.meaning (.wrongLength index) (rest.length - 1))
    | some () =>
      let (settings, rest) ← keyValue key settings rest
      listBody (index + 1) keys settings rest

/-- Reads a list whose bracket is read. -/
def list (rest : List UInt8) : Except Fault (Settings × List UInt8) := do
  let (settings, rest) ← listBody 0 [.entry, .output, .singleQuote] noSettings rest
  let ((), rest) ← closeList rest
  .ok (settings, rest)

/-! ## Files -/

/-- Reads the settings and nothing behind them. -/
def settingsBytes (bytes : List UInt8) : Except Fault Settings := do
  let (settings, rest) ← match skipBlanks bytes with
    | [] => faultOver .missingValue []
    | 0x7B :: rest => object rest
    | 0x5B :: rest => list rest
    | rest => refuseValue "struct KnitConfig" rest
  match skipBlanks rest with
  | [] => .ok settings
  | rest => faultOver .trailingCharacters rest

/-- The settings that the text of a file gives. -/
def parse (text : String) : Except Failure Settings :=
  let bytes := Utf8.encode text
  match settingsBytes bytes with
  | .ok settings => .ok settings
  | .error fault => .error (.config ("Failed to parse " ++ fileName ++ ": " ++ fault.message bytes))

/-- The path of the settings file in a directory. -/
def settingsPath (directory : Path) : Path :=
  directory.join (.ofString fileName)

/-- The settings of the file in a directory, given its text: `none` if there is no such file. Also tells what was
done. -/
def load (directory : Path) (file : Option (Except StoreError String)) :
    List Event × Except Failure (Option Settings) :=
  match file with
  | none => ([.noSettings], .ok none)
  | some answer =>
    ([.loadingSettings (settingsPath directory)], match answer with
      | .error error => .error (.io error)
      | .ok text => (parse text).map some)

/-- What to do, from the settings of the file and from what the command line gives. -/
def merge (file : Option Settings) (entry output : Option Path) (singleQuote : Bool) :
    Except Failure Options :=
  let settings := file.getD noSettings
  match entry.or (settings.entry.map Path.ofString) with
  | none => .error (.config ("no entry module given on the command line or in " ++ fileName))
  | some entry =>
    .ok {
      entry
      output := (output.or (settings.output.map Path.ofString)).getD (Path.ofString defaultOutput)
      singleQuote := singleQuote || settings.singleQuote.getD false }

end Config

end Bundler
