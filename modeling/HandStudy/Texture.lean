import HandStudy.Card
import HandStudy.Ordered

/-!
# Board texture

The texture of a board is a set of tags that depend on the ranks and suits of its
cards only: how many suits there are, which ranks come more than once, the highest
rank and the presence of broadway ranks. Rules name the tags they require in a
list separated by commas.
-/

namespace HandStudy

namespace Texture

/-- A property of a board. -/
inductive Tag where
  /-- All cards share one suit. -/
  | monotone
  /-- There are exactly two suits. -/
  | twoTone
  /-- There are exactly three suits. -/
  | rainbow
  | quads
  | trips
  /-- Trips and another rank that comes twice. -/
  | fullHouse
  | twoPair
  | paired
  /-- The highest rank on the board. -/
  | high (r : Rank)
  /-- All cards have broadway ranks, each another one. -/
  | broadwayHeavy
  /-- There are at least two broadway ranks. -/
  | broadwayPresent
deriving DecidableEq, Inhabited

/-- The name that rules are written with. -/
def Tag.name : Tag → String
  | monotone => "monotone"
  | twoTone => "two_tone"
  | rainbow => "rainbow"
  | quads => "quads"
  | trips => "trips"
  | fullHouse => "full_house"
  | twoPair => "two_pair"
  | paired => "paired"
  | high r => String.ofList (r.letter :: "-high".toList)
  | broadwayHeavy => "broadway_heavy"
  | broadwayPresent => "broadway_present"

/-- How often a rank comes on a board. -/
def rankCount (board : List Card) (r : Rank) : Nat :=
  board.countP (·.rank = r)

/-- The ranks that come exactly so often on a board. -/
def ranksCounted (board : List Card) (n : Nat) : List Rank :=
  Rank.all.filter (rankCount board · = n)

/-- The tag for the number of suits. Four suits have none. -/
def suitTags (board : List Card) : List Tag :=
  match (Ordered.ofList (board.map Card.suit)).length with
  | 1 => [.monotone]
  | 2 => [.twoTone]
  | 3 => [.rainbow]
  | _ => []

/-- The tags for ranks that come more than once: only those of the strongest kind. -/
def repetitionTags (board : List Card) : List Tag :=
  let pairs := (ranksCounted board 2).length
  if Rank.all.any (4 ≤ rankCount board ·) then [.quads]
  else if ranksCounted board 3 ≠ [] then
    if pairs ≠ 0 then [.trips, .fullHouse] else [.trips]
  else if pairs = 2 then [.twoPair]
  else if pairs = 1 then [.paired]
  else []

/-- The tag for the highest rank. -/
def highTags (board : List Card) : List Tag :=
  ((Ordered.ofList (board.map Card.rank)).getLast?.map Tag.high).toList

/-- The tag for broadway ranks, on boards of at least three cards. -/
def broadwayTags (board : List Card) : List Tag :=
  let broadway := ((Ordered.ofList (board.map Card.rank)).filter Rank.isBroadway).length
  if board.length < 3 then []
  else if broadway = board.length then [.broadwayHeavy]
  else if 2 ≤ broadway then [.broadwayPresent]
  else []

/-- The tags of a board, in their order. An empty board has none. -/
def analyze (board : List Card) : List Tag :=
  if board = [] then []
  else suitTags board ++ repetitionTags board ++ highTags board ++ broadwayTags board

/-- The tags of a board given as text. -/
def analyzeText (cards : List String) : Except CardError (List Tag) :=
  (Card.parseAll cards).map analyze

/-- The set of the names of some tags. -/
def names (tags : List Tag) : List String :=
  Ordered.ofList (tags.map Tag.name)

/-- The set of the names in a list separated by commas. -/
def parseList (list : String) : List String :=
  Ordered.ofList (Text.listEntries list)

/-- Does a board with these tags have every required name? -/
def satisfies (required : List String) (tags : List Tag) : Bool :=
  required.all fun name => tags.any (·.name = name)

end Texture

end HandStudy
