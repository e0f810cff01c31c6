import HandStudy.Hand
import HandStudy.Texture

/-!
# Tag rules

A rule says which hands a tag applies to, by conditions of several kinds that have
to hold together. A condition that is not given, or given as a blank text, is no
condition at all; a rule without any matches every hand (`TagRule.isWildcard`).
-/

namespace HandStudy

/-- A rule that belongs to a tag. -/
structure TagRule where
  id : Int64
  tag : Int64
  description : Option String := none
  /-- Patterns searched for in the actions of the streets. -/
  preflop : Option String := none
  flop : Option String := none
  turn : Option String := none
  river : Option String := none
  /-- The names that the flop's texture needs, in a list separated by commas. -/
  texture : Option String := none
  /-- Bounds of the stack, which are allowed themselves. -/
  minStack : Option Float := none
  maxStack : Option Float := none
  /-- Globs for the parts of the format. -/
  gameClass : Option String := none
  variant : Option String := none
  tableSize : Option String := none
  /-- A glob for the free text about the game. -/
  gameType : Option String := none
  players : Option UInt32 := none
deriving Inhabited

namespace TagRule

/-- The pattern for a street, trimmed. -/
def pattern? (r : TagRule) (s : Street) : Option String :=
  Option.bind (match s with
    | .preflop => r.preflop
    | .flop => r.flop
    | .turn => r.turn
    | .river => r.river) Text.trim?

/-- The glob for a part of the format, trimmed. -/
def formatGlob? (r : TagRule) (p : GameFormat.Part) : Option String :=
  Option.bind (match p with
    | .gameClass => r.gameClass
    | .variant => r.variant
    | .tableSize => r.tableSize) Text.trim?

/-- The glob for the free text about the game, trimmed. -/
def gameTypeGlob? (r : TagRule) : Option String :=
  r.gameType.bind Text.trim?

/-- The set of names that the flop's texture needs, if there are any. -/
def textureNames? (r : TagRule) : Option (List String) :=
  match r.texture.map Texture.parseList with
  | some (name :: names) => some (name :: names)
  | _ => none

/-- Is the rule without conditions? -/
def isWildcard (r : TagRule) : Bool :=
  Street.all.all (r.pattern? · |>.isNone) && r.textureNames?.isNone && r.minStack.isNone &&
    r.maxStack.isNone && GameFormat.Part.all.all (r.formatGlob? · |>.isNone) &&
    r.gameTypeGlob?.isNone && r.players.isNone

/-- A rule as JSON. -/
def toJson (r : TagRule) : Json :=
  .obj
    [("id", .int r.id.toInt),
     ("tag_id", .int r.tag.toInt),
     ("description", .ofOption .str r.description),
     ("preflop_pattern", .ofOption .str r.preflop),
     ("flop_pattern", .ofOption .str r.flop),
     ("turn_pattern", .ofOption .str r.turn),
     ("river_pattern", .ofOption .str r.river),
     ("board_texture", .ofOption .str r.texture),
     ("min_effective_stack_bb", .ofOption .ofFloat r.minStack),
     ("max_effective_stack_bb", .ofOption .ofFloat r.maxStack),
     ("game_class_pattern", .ofOption .str r.gameClass),
     ("game_variant_pattern", .ofOption .str r.variant),
     ("table_size_pattern", .ofOption .str r.tableSize),
     ("game_type_pattern", .ofOption .str r.gameType),
     ("num_players", .ofOption (fun n => .int n.toNat) r.players)]

open Decode in
/-- How a rule is decoded. -/
def record : Record TagRule where
  name := "TagRule"
  members :=
    [needed "id" int64 fun v r => { r with id := v },
     needed "tag_id" int64 fun v r => { r with tag := v },
     defaulted "description" (nullable text) fun v r => { r with description := v },
     defaulted "preflop_pattern" (nullable text) fun v r => { r with preflop := v },
     defaulted "flop_pattern" (nullable text) fun v r => { r with flop := v },
     defaulted "turn_pattern" (nullable text) fun v r => { r with turn := v },
     defaulted "river_pattern" (nullable text) fun v r => { r with river := v },
     defaulted "board_texture" (nullable text) fun v r => { r with texture := v },
     defaulted "min_effective_stack_bb" (nullable float) fun v r => { r with minStack := v },
     defaulted "max_effective_stack_bb" (nullable float) fun v r => { r with maxStack := v },
     defaulted "game_class_pattern" (nullable text) fun v r => { r with gameClass := v },
     defaulted "game_variant_pattern" (nullable text) fun v r => { r with variant := v },
     defaulted "table_size_pattern" (nullable text) fun v r => { r with tableSize := v },
     defaulted "game_type_pattern" (nullable text) fun v r => { r with gameType := v },
     defaulted "num_players" (nullable word32) fun v r => { r with players := v }]
  blank := { id := 0, tag := 0 }

/-- Decodes a rule. -/
def decode : Decode.Decoder TagRule :=
  record.decode

end TagRule

end HandStudy
