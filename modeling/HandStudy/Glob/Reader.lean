import HandStudy.Glob.Basic

/-!
# Reading globs

A glob is read from left to right; alternatives that are still open wait on a
stack. A backslash makes the next character a literal, except in a class. A double
star is a wildcard of directories only where it fills the space between two
separators or the ends of its sequence; elsewhere it is two stars.
-/

namespace HandStudy.Glob

/-- Alternatives that are open: the sequence they stand in and their branches that
    are complete, both last first. -/
structure Frame where
  tokens : List Token
  branches : List (List Token)

/-- Where reading stands: the last character taken, the current sequence, last
    token first, the open alternatives, innermost first, and the rest of the text. -/
structure State where
  before : Option Char := none
  tokens : List Token := []
  outer : List Frame := []
  rest : List Char

namespace State

/-- The state with one more token, before the given rest. -/
def add (s : State) (t : Token) (before : Char) (rest : List Char) : State :=
  { s with before := some before, tokens := t :: s.tokens, rest }

/-- The items of a class, up to its closing bracket: the ranges so far, last first,
    and whether the last one waits for its upper end. A range must not run
    backwards. Gives the ranges and the rest of the text. -/
def readClass (ranges : List (Char × Char)) (open? : Bool) :
    List Char → Option (List (Char × Char) × List Char)
  | [] => none
  | c :: cs =>
    match ranges with
    | [] => readClass [(c, c)] false cs
    | (lo, _) :: others =>
      if c = ']' then some ((if open? then ('-', '-') :: ranges else ranges).reverse, cs)
      else if open? then if lo ≤ c then readClass ((lo, c) :: others) false cs else none
      else if c = '-' then readClass ranges true cs
      else readClass ((c, c) :: ranges) false cs

/-- The tokens of a double star, given what stands before and after it: the rest of
    the sequence, last token first, and the separator that is taken with it. -/
def doubleStar (s : State) (cs : List Char) : List Token × Bool :=
  let plain := (Token.anyMany :: Token.anyMany :: s.tokens, false)
  let separatorNext := cs.head? = some '/'
  let endNext := cs.isEmpty || (!s.outer.isEmpty && (cs.head? = some ',' || cs.head? = some '\x7d'))
  match s.tokens with
  | [] => if cs.isEmpty || separatorNext then ([.leadingDirs], separatorNext) else plain
  | last :: tokens =>
    let startBefore := !s.outer.isEmpty && (s.before = some ',' || s.before = some '\x7b')
    if s.before ≠ some '/' && !startBefore then plain
    else if endNext || separatorNext then
      let token := match last with
        | .leadingDirs => .leadingDirs
        | .allBelow => .allBelow
        | _ => if separatorNext then .innerDirs else .allBelow
      (token :: tokens, separatorNext)
    else plain

/-- The state after the next part of the text. -/
def step (s : State) : List Char → Option State
  | [] => none
  | c :: cs =>
    if c = '?' then some (s.add .any c cs)
    else if c = '*' then
      match cs with
      | '*' :: cs =>
        let (tokens, separator) := s.doubleStar cs
        if separator then some { s with before := some '/', tokens, rest := cs.drop 1 }
        else some { s with before := some '*', tokens, rest := cs }
      | _ => some (s.add .anyMany c cs)
    else if c = '[' then
      let (negated, cs) := match cs with
        | '!' :: cs | '^' :: cs => (true, cs)
        | _ => (false, cs)
      (readClass [] false cs).map fun (ranges, rest) => s.add (.oneOf negated ranges) ']' rest
    else if c = '\x7b' then
      some { before := some c, tokens := [], outer := ⟨s.tokens, []⟩ :: s.outer, rest := cs }
    else if c = '\x7d' then
      match s.outer with
      | [] => none
      | fr :: outer =>
        let t := .alternatives (s.tokens.reverse :: fr.branches).reverse
        some { before := some c, tokens := t :: fr.tokens, outer, rest := cs }
    else if c = ',' then
      match s.outer with
      | [] => some (s.add (.literal c) c cs)
      | fr :: outer =>
        let fr := { fr with branches := s.tokens.reverse :: fr.branches }
        some { before := some c, tokens := [], outer := fr :: outer, rest := cs }
    else if c = '\\' then
      match cs with
      | [] => none
      | d :: cs => some (s.add (.literal d) d cs)
    else some (s.add (.literal c) c cs)

/-- Reads to the end of the text, at most so many parts. -/
def run (fuel : Nat) (s : State) : Option Glob :=
  match fuel, s.rest with
  | _, [] => if s.outer.isEmpty then some ⟨s.tokens.reverse⟩ else none
  | 0, _ => none
  | fuel + 1, cs => (s.step cs).bind (run fuel)

end State

/-- The glob that a text spells, if it is one. Every step takes a character, so
    there are no more of them than characters. -/
def ofString? (text : String) : Option Glob :=
  State.run text.length { rest := text.toList }

end HandStudy.Glob
