import HandStudy.GameFormat

/-!
# Game profiles

A profile is a format with a name of its own. Names are compared without regard to
the case of ASCII letters. In JSON the three parts of the format stand beside the
name, in one object.
-/

namespace HandStudy

/-- A named format. -/
structure Profile where
  name : String
  format : GameFormat
deriving DecidableEq, Inhabited

namespace Profile

/-- The profiles that every new library has. -/
def defaults : List Profile :=
  [⟨"Zoom 6-max", .cash, .zoom, .six⟩,
   ⟨"Spingo", .tournament, .regular, .three⟩,
   ⟨"Live Cash 9-max", .cash, .regular, .nine⟩,
   ⟨"Online MTT 6-max", .tournament, .regular, .six⟩,
   ⟨"Zoom 9-max", .cash, .zoom, .nine⟩,
   ⟨"Heads-up Cash", .cash, .regular, .two⟩,
   ⟨"Heads-up Tournament", .tournament, .regular, .two⟩]

/-- Does the profile answer to this name? -/
def isNamed (p : Profile) (name : String) : Bool :=
  Text.sameLetters p.name name

/-- A profile as JSON. -/
def toJson (p : Profile) : Json :=
  .obj (("name", .str p.name) :: p.format.fields)

/-- The part of a profile that is decoded first: its name alone. -/
def nameRecord : Decode.Record String where
  name := "GameProfile"
  members := [Decode.needed "name" Decode.text fun s _ => s]
  blank := ""

/-- Decodes a profile, which has to be an object: its name first, its format after
    it. Every field has to have a value, also one that is not used. -/
def decode : Decode.Decoder Profile
  | .obj fields => do
    if !Json.fieldsWhole fields then .error (.invalid "no value") else
    let name ← nameRecord.decodeFields fields
    let format ← GameFormat.record.decodeFields fields
    return ⟨name, format⟩
  | v => Decode.mismatch v "struct GameProfile"

end Profile

end HandStudy
