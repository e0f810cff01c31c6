import HandStudy.Hand

/-!
# Rules that cannot be evaluated

A rule of a tag or a condition of a spot can have a fault in what it says, which is an error when
it is evaluated. One kind of fault is not foreseen: a glob that is well formed, but too large for a
matcher (`RuleFault.isFatal`).
-/

namespace HandStudy

/-- What a glob of a rule is about. -/
inductive GlobField where
  | part (p : GameFormat.Part)
  | gameType
deriving DecidableEq, Inhabited

/-- The name of what a glob is about. -/
def GlobField.name : GlobField → String
  | .part p => p.name
  | .gameType => "game_type"

/-- Why a rule of a tag or a spot cannot be evaluated. -/
inductive RuleFault where
  | badPattern (street : Street) (pattern : String)
  | badGlob (field : GlobField) (glob : String)
  /-- The glob is well formed, but no matcher can be built for it. -/
  | globTooLarge (field : GlobField) (glob : String)
  | badBoard (card : CardError)
  | badParameters (e : Decode.DecodeError)
  | unknownCondition (kind : String)
deriving DecidableEq, Inhabited

/-- Is the fault one that nobody expects, so that whoever meets it breaks off? -/
def RuleFault.isFatal : RuleFault → Bool
  | globTooLarge .. => true
  | badPattern .. | badGlob .. | badBoard _ | badParameters _ | unknownCondition _ => false

/-- A rule that cannot be evaluated. -/
structure RuleError where
  rule : Int64
  fault : RuleFault
deriving DecidableEq, Inhabited

/-- The error in words, up to what is wrong inside a pattern or a glob. A glob that is too large
    is not told of. -/
def RuleError.message (e : RuleError) : String :=
  s!"Rule {e.rule}: " ++ match e.fault with
    | .badPattern street pattern => s!"invalid {street.name} pattern '{pattern}'"
    | .badGlob field glob | .globTooLarge field glob => s!"invalid {field.name} glob '{glob}'"
    | .badBoard card => s!"board texture could not be derived: {card.message}"
    | .badParameters e => s!"invalid condition params: {e.message}"
    | .unknownCondition kind => s!"unknown condition type '{kind}'"

end HandStudy
