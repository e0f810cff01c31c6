import HandStudy.Card
import HandStudy.GameFormat
import HandStudy.Hand.FlopText

/-!
# Hands

What is known about one hand of poker: the actions of its four streets, the flop,
the depth of the stacks and the format of the game. Everything may be missing, and
some of it can be had in two ways: the flop is given as cards or found in the
history (`Hand.flopTexts`), the format is given or guessed (`Hand.resolvedFormat`).
-/

namespace HandStudy

/-- A betting round. -/
inductive Street where
  | preflop
  | flop
  | turn
  | river
deriving DecidableEq, Inhabited

namespace Street

/-- The streets in the order of play. -/
def all : List Street := [preflop, flop, turn, river]

/-- The name of a street. -/
def name : Street → String
  | preflop => "preflop"
  | flop => "flop"
  | turn => "turn"
  | river => "river"

/-- Decodes a street from its name. -/
def decode : Decode.Decoder Street :=
  Decode.choice (all.map fun s => (s.name, s))

end Street

/-- A hand. -/
structure Hand where
  /-- What the hand is called in reports. -/
  label : Option String := none
  preflop : String := ""
  flop : String := ""
  turn : String := ""
  river : String := ""
  flopCards : Option (List String) := none
  /-- The history in plain text. -/
  history : Option String := none
  /-- The effective stack, in big blinds. -/
  stack : Option Float := none
  format : Option GameFormat := none
  /-- The kind of game in free text. -/
  gameType : Option String := none
  players : Option UInt32 := none
deriving Inhabited

/-- Why a hand has no flop. -/
inductive FlopError where
  | missing
  | badCard (e : CardError)
deriving DecidableEq, Inhabited

/-- The error in words. -/
def FlopError.message : FlopError → String
  | .missing => "No flop cards could be resolved for the hand"
  | .badCard e => e.message

namespace Hand

/-- The actions on a street. -/
def sequence (h : Hand) : Street → String
  | .preflop => h.preflop
  | .flop => h.flop
  | .turn => h.turn
  | .river => h.river

/-- The hand with other actions on a street. -/
def withSequence (h : Hand) (s : Street) (actions : String) : Hand :=
  match s with
  | .preflop => { h with preflop := actions }
  | .flop => { h with flop := actions }
  | .turn => { h with turn := actions }
  | .river => { h with river := actions }

/-- The texts of the flop's cards: those given, if there are any, or else those in
    the history. -/
def flopTexts (h : Hand) : Option (List String) :=
  match h.flopCards with
  | some (c :: cs) => some (c :: cs)
  | _ => h.history.bind FlopText.cards?

/-- The flop. -/
def flopBoard (h : Hand) : Except FlopError (List Card) :=
  match h.flopTexts with
  | none => .error .missing
  | some texts => (Card.parseAll texts).mapError .badCard

/-- The format of the game. -/
def resolvedFormat (h : Hand) : ResolvedFormat :=
  match h.format with
  | some f => .given f
  | none => .guessed (GameFormat.guess h.gameType h.players)

/-- A hand as JSON. -/
def toJson (h : Hand) : Json :=
  .obj
    [("hand_id", .ofOption .str h.label),
     ("preflop", .str h.preflop),
     ("flop", .str h.flop),
     ("turn", .str h.turn),
     ("river", .str h.river),
     ("flop_cards", .ofOption (.ofList .str) h.flopCards),
     ("raw_text", .ofOption .str h.history),
     ("effective_stack_bb", .ofOption .ofFloat h.stack),
     ("format", .ofOption GameFormat.toJson h.format),
     ("game_type", .ofOption .str h.gameType),
     ("number_of_players", .ofOption (fun n => .int n.toNat) h.players)]

open Decode in
/-- How a hand is decoded. -/
def record : Record Hand where
  name := "HandContext"
  members :=
    [defaulted "hand_id" (nullable Decode.text) fun v h => { h with label := v },
     defaulted "preflop" Decode.text fun v h => { h with preflop := v },
     defaulted "flop" Decode.text fun v h => { h with flop := v },
     defaulted "turn" Decode.text fun v h => { h with turn := v },
     defaulted "river" Decode.text fun v h => { h with river := v },
     defaulted "flop_cards" (nullable (list Decode.text)) fun v h => { h with flopCards := v },
     defaulted "raw_text" (nullable Decode.text) fun v h => { h with history := v },
     defaulted "effective_stack_bb" (nullable float) fun v h => { h with stack := v },
     defaulted "format" (nullable GameFormat.record.decode) fun v h => { h with format := v },
     defaulted "game_type" (nullable Decode.text) fun v h => { h with gameType := v },
     defaulted "number_of_players" (nullable word32) fun v h => { h with players := v }]
  blank := {}

/-- Decodes a hand. -/
def decode : Decode.Decoder Hand :=
  record.decode

end Hand

end HandStudy
