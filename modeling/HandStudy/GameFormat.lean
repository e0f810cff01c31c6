import HandStudy.Json.Decode
import HandStudy.Text.Letters

/-!
# Game formats

The format of a game is its class, its variant and the size of its table. Newer
hands carry it as data; for older ones it is guessed from a free text such as
`zoom_cash_6max` and from the number of players (`GameFormat.guess`). A resolved
format (`ResolvedFormat`) tells the two apart.
-/

namespace HandStudy

/-- Is money or a tournament's prize at stake? -/
inductive GameClass where
  | cash
  | tournament
deriving DecidableEq, Inhabited

namespace GameClass

/-- The name of a class. -/
def name : GameClass → String
  | cash => "cash"
  | tournament => "tournament"

/-- Decodes a class from its name. -/
def decode : Decode.Decoder GameClass :=
  Decode.choice ([cash, tournament].map fun c => (c.name, c))

end GameClass

/-- Does a player who folds go on at another table at once? -/
inductive GameVariant where
  | zoom
  | regular
deriving DecidableEq, Inhabited

namespace GameVariant

/-- The name of a variant. -/
def name : GameVariant → String
  | zoom => "zoom"
  | regular => "regular"

/-- Decodes a variant from its name. -/
def decode : Decode.Decoder GameVariant :=
  Decode.choice ([zoom, regular].map fun v => (v.name, v))

end GameVariant

/-- How many players a table seats. -/
inductive TableSize where
  | two
  | three
  | six
  | nine
deriving DecidableEq, Inhabited

namespace TableSize

/-- The sizes in order. -/
def all : List TableSize := [two, three, six, nine]

/-- The number of seats. -/
def seats : TableSize → UInt32
  | two => 2
  | three => 3
  | six => 6
  | nine => 9

/-- The size with this number of seats. -/
def ofSeats? (n : UInt32) : Option TableSize :=
  all.find? (·.seats = n)

/-- The name of a size. -/
def name : TableSize → String
  | two => "2-max"
  | three => "3-max"
  | six => "6-max"
  | nine => "9-max"

/-- Decodes a size from its name. -/
def decode : Decode.Decoder TableSize :=
  Decode.choice (all.map fun s => (s.name, s))

end TableSize

/-- The format of a game. -/
structure GameFormat where
  gameClass : GameClass
  variant : GameVariant
  tableSize : TableSize
deriving DecidableEq, Inhabited

namespace GameFormat

open Decode (needed)

/-- The most common format, taken when nothing else is known. -/
def usual : GameFormat := ⟨.cash, .regular, .six⟩

/-- The parts of a format. -/
inductive Part where
  | gameClass
  | variant
  | tableSize
deriving DecidableEq, Inhabited

/-- The parts in order. -/
def Part.all : List Part := [.gameClass, .variant, .tableSize]

/-- The name of a part. -/
def Part.name : Part → String
  | gameClass => "game_class"
  | variant => "game_variant"
  | tableSize => "table_size"

/-- What a format says in one of its parts. -/
def part (f : GameFormat) : Part → String
  | .gameClass => f.gameClass.name
  | .variant => f.variant.name
  | .tableSize => f.tableSize.name

/-- The three names, separated by slashes. -/
def text (f : GameFormat) : String :=
  "/".intercalate (Part.all.map f.part)

/-- The fields of a format's JSON object. -/
def fields (f : GameFormat) : List (String × Json) :=
  Part.all.map fun p => (p.name, .str (f.part p))

/-- A format as JSON. -/
def toJson (f : GameFormat) : Json :=
  .obj f.fields

/-- How a format is decoded. -/
def record : Decode.Record GameFormat where
  name := "FormatDetails"
  members :=
    [needed "game_class" GameClass.decode fun c f => { f with gameClass := c },
     needed "game_variant" GameVariant.decode fun v f => { f with variant := v },
     needed "table_size" TableSize.decode fun s f => { f with tableSize := s }]
  blank := usual

/-- Does a text in lower case have one of the keywords? -/
def mentionsAny (keywords : List String) (text : List Char) : Bool :=
  keywords.any fun k => Text.mentions k.toList text

/-- The words by which a game is a tournament, unless it is called a cash game. -/
def tournamentWords : List String := ["tournament", "mtt", "sitgo", "sng", "spingo"]

/-- The words for the sizes of tables. The first size with a word counts. -/
def sizeWords : List (List String × TableSize) :=
  [(["6max", "6-max"], .six), (["2max", "2-max"], .two), (["9max", "9-max"], .nine),
   (["3max", "3-max"], .three), (["heads", "hu"], .two)]

/-- The format that a free text and a number of players suggest. What they say
    nothing about is as usual. -/
def guess (gameType : Option String) (players : Option UInt32) : GameFormat :=
  let text := Text.lower (gameType.getD "")
  let gameClass : GameClass :=
    if mentionsAny ["cash"] text then .cash
    else if mentionsAny tournamentWords text then .tournament
    else .cash
  let variant : GameVariant := if mentionsAny ["zoom"] text then .zoom else .regular
  let tableSize := match sizeWords.find? (mentionsAny ·.1 text) with
    | some (_, size) => size
    | none => (players.bind TableSize.ofSeats?).getD .six
  ⟨gameClass, variant, tableSize⟩

end GameFormat

/-- The format of a hand and where it is from. -/
inductive ResolvedFormat where
  /-- Given with the hand. -/
  | given (format : GameFormat)
  /-- Guessed from free text. -/
  | guessed (format : GameFormat)
deriving DecidableEq, Inhabited

namespace ResolvedFormat

/-- The format itself. -/
def format : ResolvedFormat → GameFormat
  | given f => f
  | guessed f => f

/-- May the format be wrong? -/
def isApproximate : ResolvedFormat → Bool
  | given _ => false
  | guessed _ => true

end ResolvedFormat

end HandStudy
