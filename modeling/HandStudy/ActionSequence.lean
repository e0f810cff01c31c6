import HandStudy.Ordered

/-!
# Action sequences

The actions of a betting round are written as pairs of a seat's digit and an
action's letter, in the order of play: `1f2f3r4c`. An empty text means that nobody
acted. Reading tells which pair is malformed and where (`SequenceError`); offsets
count the bytes of the text.
-/

namespace HandStudy

/-- What a player does. -/
inductive Action where
  | fold
  | call
  | raise
  | check
  | bet
deriving DecidableEq, Inhabited

namespace Action

/-- All actions. -/
def all : List Action := [fold, call, raise, check, bet]

/-- The letter of an action. -/
def letter : Action → Char
  | fold => 'f'
  | call => 'c'
  | raise => 'r'
  | check => 'k'
  | bet => 'b'

/-- The action with the given letter. -/
def ofChar? (c : Char) : Option Action :=
  all.find? (·.letter = c)

/-- The name of an action. -/
def name : Action → String
  | fold => "Fold"
  | call => "Call"
  | raise => "Raise"
  | check => "Check"
  | bet => "Bet"

end Action

/-- One action of a seat, the seat being a single digit. -/
structure Step where
  seat : Fin 10
  action : Action
deriving DecidableEq, Inhabited

/-- The pair of characters of a step. -/
def Step.chars (s : Step) : List Char :=
  [Nat.digitChar s.seat.val, s.action.letter]

/-- The text of some steps. -/
def Step.textOf (steps : List Step) : String :=
  String.ofList (steps.flatMap Step.chars)

/-- What is wrong with a sequence. -/
inductive SequenceFault where
  /-- The last seat has no action. -/
  | trailingSeat (seat : Fin 10)
  | unknownAction (found : Char) (offset : Nat)
  | noSeat (found : Char) (offset : Nat)
deriving DecidableEq, Inhabited

/-- A text that is no sequence. -/
structure SequenceError where
  sequence : String
  fault : SequenceFault
deriving DecidableEq, Inhabited

/-- The error in words. -/
def SequenceError.message (e : SequenceError) : String :=
  s!"Malformed sequence '{e.sequence}': " ++ match e.fault with
    | .trailingSeat seat => s!"position {seat.val} has no action"
    | .unknownAction found offset => s!"unknown action '{found}' at offset {offset}"
    | .noSeat found offset => s!"expected position digit, found '{found}' at offset {offset}"

namespace ActionSequence

/-- The seat with the given digit. -/
def seatOf? (c : Char) : Option (Fin 10) :=
  (List.finRange 10).find? (Nat.digitChar ·.val = c)

/-- Reads the steps of a text that starts at the given offset. -/
def readSteps (offset : Nat) : List Char → Except SequenceFault (List Step)
  | [] => .ok []
  | [c] =>
    match seatOf? c with
    | none => .error (.noSeat c offset)
    | some seat => .error (.trailingSeat seat)
  | c :: a :: rest =>
    match seatOf? c with
    | none => .error (.noSeat c offset)
    | some seat =>
      match Action.ofChar? a with
      | none => .error (.unknownAction a (offset + c.utf8Size))
      | some action =>
        (readSteps (offset + c.utf8Size + a.utf8Size) rest).map (⟨seat, action⟩ :: ·)

/-- Reads a sequence. -/
def parse (s : String) : Except SequenceError (List Step) :=
  (readSteps 0 s.toList).mapError (⟨s, ·⟩)

/-- The seats from one up to the number of seats that do not fold in the steps. -/
def withoutFolds (steps : List Step) (seats : Nat) : List Nat :=
  (List.range' 1 seats).filter fun n =>
    !steps.any fun s => s.action = .fold && s.seat.val = n

/-- The seats that have not folded by the end of a sequence. Every action but a
    fold leaves a seat in. -/
def survivors (s : String) (seats : Nat) : Except SequenceError (List Nat) :=
  (parse s).map (withoutFolds · seats)

end ActionSequence

end HandStudy
