/-!
# Expressions over symbols

Patterns and globs are both read into one kind of expression, over an alphabet of
their own. Its leaves are sets of symbols and conditions on a place between two
symbols; how these are decided is up to the alphabet (`Alphabet`).

An expression is evaluated on all places of a text at once: `Expr.ends` maps a
set of places where a match may begin to the set of places where one of these
matches ends. Sets of places are lists in increasing order. A repetition is
evaluated by following only the places not reached before, so the work is bounded
by the length of the text and not by the number of ways to match it.
-/

namespace HandStudy.Pattern

/-- An expression with sets of symbols of one kind and conditions of another. -/
inductive Expr (κ α : Type) where
  | empty
  /-- One symbol of a set. -/
  | one (set : κ)
  /-- A condition on the place, which takes no symbol. -/
  | check (condition : α)
  | seq (first second : Expr κ α)
  | either (left right : Expr κ α)
  /-- At least so many times and, if there is a bound, at most so many. -/
  | times (body : Expr κ α) (least : Nat) (most : Option Nat)
deriving Inhabited

/-- An alphabet: which symbols are in a set, and at which places, given by the
    symbols before and after, a condition holds. -/
structure Alphabet (κ α σ : Type) where
  contains : κ → σ → Bool
  holds : α → (before after : Option σ) → Bool

namespace Places

/-- The places of two sets. -/
def union : List Nat → List Nat → List Nat
  | [], ys => ys
  | xs, [] => xs
  | x :: xs, y :: ys =>
    if x < y then x :: union xs (y :: ys)
    else if y < x then y :: union (x :: xs) ys
    else x :: union xs ys

/-- The places of the first set that are not in the second. -/
def diff : List Nat → List Nat → List Nat
  | [], _ => []
  | xs, [] => xs
  | x :: xs, y :: ys =>
    if x < y then x :: diff xs (y :: ys)
    else if y < x then diff (x :: xs) ys
    else diff xs ys

/-- A step taken so many times. A set that a step maps to itself is mapped to
    itself by all further steps. -/
def iterate (step : List Nat → List Nat) : Nat → List Nat → List Nat
  | 0, places => places
  | n + 1, places =>
    let next := step places
    if next = places then places else iterate step n next

/-- All places reached by at most so many steps, from those already reached and
    the last ones among them, from which the next step has to be taken. -/
def reach (step : List Nat → List Nat) : Nat → (reached last : List Nat) → List Nat
  | 0, reached, _ => reached
  | n + 1, reached, last =>
    match diff (step last) reached with
    | [] => reached
    | p :: fresh => reach step n (union reached (p :: fresh)) (p :: fresh)

end Places

namespace Expr

variable {κ α σ : Type}

/-- The places where a match ends that begins at one of the given places.
    Repetitions beyond the number of places in the text reach nothing new. -/
def ends (alphabet : Alphabet κ α σ) (text : Array σ) : Expr κ α → List Nat → List Nat
  | .empty, places => places
  | .one set, places => places.filterMap fun i =>
    match text[i]? with
    | some c => if alphabet.contains set c then some (i + 1) else none
    | none => none
  | .check condition, places => places.filter fun i =>
    alphabet.holds condition (if i = 0 then none else text[i - 1]?) text[i]?
  | .seq first second, places => ends alphabet text second (ends alphabet text first places)
  | .either left right, places =>
    Places.union (ends alphabet text left places) (ends alphabet text right places)
  | .times body least most, places =>
    let step := fun places => ends alphabet text body places
    let limit := text.size + 1
    let start := Places.iterate step (min least limit) places
    let more := match most with
      | none => limit
      | some most => min (most - least) limit
    Places.reach step more start start

/-- Does some part of the text match? -/
def occursIn (alphabet : Alphabet κ α σ) (e : Expr κ α) (text : Array σ) : Bool :=
  !(e.ends alphabet text (List.range (text.size + 1))).isEmpty

/-- Does the text as a whole match? -/
def matchesAll (alphabet : Alphabet κ α σ) (e : Expr κ α) (text : Array σ) : Bool :=
  (e.ends alphabet text [0]).contains text.size

/-- Expressions one after another. -/
def seqAll (es : List (Expr κ α)) : Expr κ α :=
  match es with
  | [] => .empty
  | e :: es => es.foldl .seq e

/-- Any of some expressions. -/
def eitherAll (es : List (Expr κ α)) : Expr κ α :=
  match es with
  | [] => .empty
  | e :: es => es.foldl .either e

end Expr

end HandStudy.Pattern
