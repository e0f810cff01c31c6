import HandStudy.ActionSequence
import HandStudy.Json.Basic

/-!
# Position filters

A search for hands that a player has played on the flop is narrowed by the seats
that are left after the first round: the player sits on one of them. The filter is
an SQL condition with one clause for each seat.
-/

namespace HandStudy

/-- The number of seats, when it is not known. -/
def usualSeats : Nat := 6

/-- The player sits on this seat. -/
structure PositionClause where
  seat : Nat
  player : String
deriving DecidableEq, Inhabited

namespace PositionClause

/-- An SQL literal for a text: in single quotes, those inside it doubled. -/
def literal (s : String) : String :=
  let inner := s.toList.flatMap fun c => if c = '\'' then ['\'', '\''] else [c]
  String.ofList ('\'' :: inner ++ ['\''])

/-- The clause in SQL. -/
def sql (c : PositionClause) : String :=
  s!"positions->>'{c.seat}' = " ++ literal c.player

/-- A clause as JSON. -/
def toJson (c : PositionClause) : Json :=
  .obj [("position", .int c.seat), ("player", .str c.player)]

end PositionClause

/-- One of the clauses holds. -/
structure PositionFilter where
  clauses : List PositionClause
deriving DecidableEq, Inhabited

namespace PositionFilter

/-- The player sits on one of the seats. -/
def ofSeats (seats : List Nat) (player : String) : PositionFilter :=
  ⟨seats.map (⟨·, player⟩)⟩

/-- Is there no clause, so that nothing passes the filter? -/
def isEmpty (f : PositionFilter) : Bool :=
  f.clauses.isEmpty

/-- The filter in SQL. -/
def sql (f : PositionFilter) : String :=
  if f.isEmpty then "FALSE"
  else "(" ++ " OR ".intercalate (f.clauses.map PositionClause.sql) ++ ")"

/-- A filter as JSON. -/
def toJson (f : PositionFilter) : Json :=
  .obj [("clauses", .ofList PositionClause.toJson f.clauses)]

end PositionFilter

end HandStudy
