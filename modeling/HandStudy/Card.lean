import HandStudy.Json.Decode
import HandStudy.Text.Blank

/-!
# Cards

A card is written as its rank and its suit, such as `Ah` or `Td`. Reading
(`Card.parse`) ignores letter case and blanks around the card; writing
(`Card.text`) gives the one canonical spelling.
-/

namespace HandStudy

/-- The four suits. -/
inductive Suit where
  | clubs
  | diamonds
  | hearts
  | spades
deriving DecidableEq, Inhabited

namespace Suit

/-- The suits in order. -/
def all : List Suit := [clubs, diamonds, hearts, spades]

/-- The letter of a suit. -/
def letter : Suit → Char
  | clubs => 'c'
  | diamonds => 'd'
  | hearts => 'h'
  | spades => 's'

/-- The suit with the given letter, in either case. -/
def ofChar? (c : Char) : Option Suit :=
  all.find? (·.letter = c.toLower)

/-- The name of a suit. -/
def name : Suit → String
  | clubs => "Clubs"
  | diamonds => "Diamonds"
  | hearts => "Hearts"
  | spades => "Spades"

/-- The place of a suit in their order. -/
def index : Suit → Nat
  | clubs => 0
  | diamonds => 1
  | hearts => 2
  | spades => 3

instance : LT Suit := ⟨fun a b => a.index < b.index⟩

instance : DecidableLT Suit := fun a b => inferInstanceAs (Decidable (a.index < b.index))

end Suit

/-- The thirteen ranks, from two up to the ace. -/
inductive Rank where
  | two
  | three
  | four
  | five
  | six
  | seven
  | eight
  | nine
  | ten
  | jack
  | queen
  | king
  | ace
deriving DecidableEq, Inhabited

namespace Rank

/-- The ranks in order. -/
def all : List Rank :=
  [two, three, four, five, six, seven, eight, nine, ten, jack, queen, king, ace]

/-- The character of a rank. -/
def letter : Rank → Char
  | two => '2'
  | three => '3'
  | four => '4'
  | five => '5'
  | six => '6'
  | seven => '7'
  | eight => '8'
  | nine => '9'
  | ten => 'T'
  | jack => 'J'
  | queen => 'Q'
  | king => 'K'
  | ace => 'A'

/-- The rank with the given character, letters in either case. -/
def ofChar? (c : Char) : Option Rank :=
  all.find? (·.letter = c.toUpper)

/-- The name of a rank. -/
def name : Rank → String
  | two => "Two"
  | three => "Three"
  | four => "Four"
  | five => "Five"
  | six => "Six"
  | seven => "Seven"
  | eight => "Eight"
  | nine => "Nine"
  | ten => "Ten"
  | jack => "Jack"
  | queen => "Queen"
  | king => "King"
  | ace => "Ace"

/-- The strength of a rank: two for a two, fourteen for an ace. -/
def value : Rank → Nat
  | two => 2
  | three => 3
  | four => 4
  | five => 5
  | six => 6
  | seven => 7
  | eight => 8
  | nine => 9
  | ten => 10
  | jack => 11
  | queen => 12
  | king => 13
  | ace => 14

instance : LT Rank := ⟨fun a b => a.value < b.value⟩

instance : DecidableLT Rank := fun a b => inferInstanceAs (Decidable (a.value < b.value))

/-- Tens and all above are broadway ranks. -/
def isBroadway (r : Rank) : Bool :=
  10 ≤ r.value

end Rank

/-- A card. -/
structure Card where
  rank : Rank
  suit : Suit
deriving DecidableEq, Inhabited

/-- What is wrong with the text of a card. -/
inductive CardFault where
  | length
  | rank
  | suit
deriving DecidableEq, Inhabited

/-- The fault in words. -/
def CardFault.message : CardFault → String
  | .length => "expected exactly two characters"
  | .rank => "unrecognized rank"
  | .suit => "unrecognized suit"

/-- A text that is no card. -/
structure CardError where
  card : String
  fault : CardFault
deriving DecidableEq, Inhabited

/-- The error in words. -/
def CardError.message (e : CardError) : String :=
  s!"Malformed card '{e.card}': {e.fault.message}"

namespace Card

instance : LT Card := ⟨fun a b => a.rank < b.rank ∨ a.rank = b.rank ∧ a.suit < b.suit⟩

instance : DecidableLT Card := fun a b =>
  inferInstanceAs (Decidable (a.rank < b.rank ∨ a.rank = b.rank ∧ a.suit < b.suit))

/-- The canonical spelling. -/
def text (c : Card) : String :=
  String.ofList [c.rank.letter, c.suit.letter]

/-- Reads a card. The rank is looked at before the suit. -/
def parse (s : String) : Except CardError Card :=
  match Text.trimChars s.toList with
  | [r, c] =>
    match Rank.ofChar? r with
    | none => .error ⟨s, .rank⟩
    | some rank =>
      match Suit.ofChar? c with
      | none => .error ⟨s, .suit⟩
      | some suit => .ok ⟨rank, suit⟩
  | _ => .error ⟨s, .length⟩

/-- Reads a board, up to its first text that is no card. -/
def parseAll (cards : List String) : Except CardError (List Card) :=
  cards.mapM parse

/-- Decodes a card from its text. -/
def decode : Decode.Decoder Card := fun v => do
  match parse (← Decode.text v) with
  | .ok c => return c
  | .error e => .error (.invalid e.message)

end Card

end HandStudy
