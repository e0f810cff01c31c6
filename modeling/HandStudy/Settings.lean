import HandStudy.Json.Decode
import HandStudy.PositionFilter
import HandStudy.Text.Blank
import HandStudy.Toml.Reader

/-!
# Settings

There are three settings: where the library is, how many seats a table has, and the
name of the player who studies. Each comes from the environment if a variable is set
and not empty, or else from the configuration file if one is named and has the
setting, or else from the defaults. `Settings` records where each value is from.
-/

namespace HandStudy

/-- The layer that a value comes from. -/
inductive Layer where
  | default
  | file
  | environment
deriving DecidableEq, Inhabited

/-- The name of a layer. -/
def Layer.name : Layer → String
  | .default => "default"
  | .file => "file"
  | .environment => "env"

/-- A value and the layer it comes from. -/
structure Layered (α : Type) where
  value : α
  layer : Layer
deriving DecidableEq, Inhabited

/-- The variables of the environment that matter. -/
structure Environment where
  /-- The name of the configuration file. -/
  config : Option String := none
  library : Option String := none
  seats : Option String := none
  hero : Option String := none
deriving Inhabited

/-- The value of a variable, unless it is empty. -/
def Environment.value? (setting : Option String) : Option String :=
  setting.filter (· ≠ "")

/-- What a configuration file says. -/
structure FileSettings where
  library : Option String := none
  seats : Option Nat := none
  hero : Option String := none
deriving DecidableEq, Inhabited

namespace FileSettings

open Decode in
/-- How a configuration file is decoded. -/
def record : Record FileSettings where
  name := "FileConfig"
  members :=
    [defaulted "library_path" text fun v s => { s with library := some v },
     defaulted "position_count" byte fun v s => { s with seats := some v },
     defaulted "hero_name" text fun v s => { s with hero := some v }]
  blank := {}

/-- Reads a configuration file. -/
def read (text : String) : Option FileSettings := do
  (record.decode (← Toml.read text)).toOption

end FileSettings

/-- What is wrong with the settings. -/
inductive SettingsError where
  /-- The configuration file cannot be read. -/
  | file
  /-- The number of seats in the environment is no number of one byte. -/
  | badSeats
  /-- The number of seats is not that of a table. -/
  | seatsOutOfRange
  /-- There is no path to the library. -/
  | noLibrary
deriving DecidableEq, Inhabited

/-- The error in words. -/
def SettingsError.message : SettingsError → String
  | .file => "the configuration file cannot be read"
  | .badSeats => "Invalid position count"
  | .seatsOutOfRange => "Invalid configuration: position_count must be between 2 and 9"
  | .noLibrary => "Invalid configuration: library_path must not be empty"

/-- The settings. -/
structure Settings where
  library : Layered String
  seats : Layered Nat
  hero : Layered (Option String)
deriving DecidableEq, Inhabited

namespace Settings

/-- Where the library is by default. -/
def defaultLibrary : String := "data/library.sqlite"

/-- The value of the highest layer that has one. -/
def choose {α : Type} (environment file : Option α) (default : α) : Layered α :=
  match environment, file with
  | some a, _ => ⟨a, .environment⟩
  | none, some a => ⟨a, .file⟩
  | none, none => ⟨default, .default⟩

/-- The number of one byte that a text stands for: decimal digits, with a plus sign
    in front or without. -/
def readByte (s : String) : Option Nat :=
  let digits := match s.toList with
    | '+' :: cs => cs
    | cs => cs
  if digits.isEmpty || !digits.all Char.isDigit then none
  else
    let n := Json.digitsValue digits
    if n < 256 then some n else none

/-- May a table have so many seats? -/
def seatsAllowed (n : Nat) : Bool :=
  2 ≤ n && n ≤ 9

/-- The settings of the file that the environment names, given the text of each
    file that can be read. -/
def loadFile (env : Environment) (text : String → Option String) :
    Except SettingsError FileSettings :=
  match Environment.value? env.config with
  | none => .ok {}
  | some path =>
    match (text path).bind FileSettings.read with
    | some file => .ok file
    | none => .error .file

/-- The number of seats in the environment. -/
def loadSeats (env : Environment) : Except SettingsError (Option Nat) :=
  match Environment.value? env.seats with
  | none => .ok none
  | some text =>
    match readByte text with
    | some n => .ok (some n)
    | none => .error .badSeats

/-- The settings, if the values that count are allowed. -/
def load (env : Environment) (text : String → Option String) : Except SettingsError Settings := do
  let file ← loadFile env text
  let seats ← loadSeats env
  let settings : Settings :=
    ⟨choose (Environment.value? env.library) file.library defaultLibrary,
     choose seats file.seats usualSeats,
     choose ((Environment.value? env.hero).map some) (file.hero.map some) none⟩
  if !seatsAllowed settings.seats.value then .error .seatsOutOfRange
  else if (Text.trim? settings.library.value).isNone then .error .noLibrary
  else return settings

/-- A value and its layer as JSON. -/
def layeredJson {α : Type} (write : α → Json) (l : Layered α) : Json :=
  .obj [("source", .str l.layer.name), ("value", write l.value)]

/-- The settings as JSON. -/
def toJson (s : Settings) : Json :=
  .obj
    [("hero_name", layeredJson (.ofOption .str) s.hero),
     ("library_path", layeredJson .str s.library),
     ("position_count", layeredJson (fun n : Nat => .int n) s.seats)]

end Settings

end HandStudy
