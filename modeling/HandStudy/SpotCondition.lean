import HandStudy.Event
import HandStudy.Library.Spots

/-!
# Conditions of spots

So far there is one kind of condition: the actions on a street are exactly the
given ones. A condition of another kind, or with bad parameters, is broken.
-/

namespace HandStudy

/-- A condition of a spot. -/
inductive SpotCondition where
  /-- The actions on the street are these. -/
  | actions (street : Street) (sequence : String)
deriving DecidableEq, Inhabited

namespace SpotCondition

/-- The name of the kind of condition about actions. -/
def actionsKind : String := "action_sequence"

open Decode in
/-- How the parameters of a condition about actions are decoded. The street is the
    first one if none is given. -/
def actionsRecord : Record (Street × String) where
  name := "ActionSequenceParams"
  members :=
    [defaulted "street" Street.decode fun v p => (v, p.2),
     needed "pattern" text fun v p => (p.1, v)]
  blank := (.preflop, "")

/-- The condition that a rule describes. -/
def ofRule (r : SpotRule) : Except RuleError SpotCondition :=
  if r.kind = actionsKind then
    match actionsRecord.decode r.parameters with
    | .ok (street, sequence) => .ok (.actions street sequence)
    | .error e => .error ⟨r.id, .badParameters e⟩
  else .error ⟨r.id, .unknownCondition r.kind⟩

/-- Does the condition hold for a hand? -/
def holds (c : SpotCondition) (h : Hand) : Bool :=
  match c with
  | actions street sequence => h.sequence street = sequence

end SpotCondition

/-- Does the condition that a rule describes hold for a hand? A broken one is noted
    and does not hold. -/
def SpotRule.holds (r : SpotRule) (h : Hand) : Logged Bool :=
  match SpotCondition.ofRule r with
  | .ok c => return c.holds h
  | .error e => do
    Logged.note (.conditionSkipped e)
    return false

/-- Do all conditions hold? They are looked at in order, up to the first that does
    not hold. -/
def allHold : List SpotRule → Hand → Logged Bool
  | [], _ => return true
  | r :: rules, h => do
    if ← r.holds h then allHold rules h else return false

/-- Do the conditions of a spot hold? A spot needs at least one. -/
def spotMatches (rules : List SpotRule) (h : Hand) : Logged Bool :=
  if rules.isEmpty then return false else allHold rules h

end HandStudy
