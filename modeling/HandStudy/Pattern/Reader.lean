import HandStudy.Pattern.Bracket

/-!
# Reading patterns

A pattern is read from left to right. Groups that are still open wait on a stack
with the flags that hold again after them (`Frame`). What is read has its final form
at once: flags are applied to each part as it is met.

Patterns find text but do not capture it, so groups leave no trace in the
expression, and neither does the greed of a repetition. Nesting is limited, and so
is the size of the expression with all its counted repetitions written out.
-/

namespace HandStudy.Pattern

/-! ## Parts of a pattern -/

/-- A part of a pattern: its expression, how deep it is nested, how large it is, and
    whether it may be repeated. -/
structure Part where
  expr : Pattern
  depth : Nat := 0
  size : Nat := 1
  repeatable : Bool := true
deriving Inhabited

/-- Parts must not be nested deeper. -/
def maxDepth : Nat := 250

/-- Parts must not be larger, in steps of a machine that has a step for each byte
    and for each fork. -/
def maxSize : Nat := 327680

/-- Parts one after another. -/
def Part.seqAll (ps : List Part) : Part :=
  match ps with
  | [p] => p
  | _ =>
    { expr := .seqAll (ps.map Part.expr)
      depth := if ps.isEmpty then 0 else (ps.map Part.depth).foldl Nat.max 0 + 1
      size := (ps.map Part.size).foldl Nat.add 0 + 1 }

/-- Parts to choose from. -/
def Part.eitherAll (ps : List Part) : Part :=
  match ps with
  | [p] => p
  | _ =>
    { expr := .eitherAll (ps.map Part.expr)
      depth := (ps.map Part.depth).foldl Nat.max 0 + 1
      size := (ps.map Part.size).foldl Nat.add 0 + ps.length + 1 }

/-- A part so many times. -/
def Part.times (p : Part) (least : Nat) (most : Option Nat) : Part :=
  { expr := .times p.expr least most
    depth := p.depth + 1
    size := match most with
      | none => max least 1 * p.size + 2
      | some most => most * p.size + (most - least) + 1 }

/-- One character of a set. -/
def Part.ofSet (s : CharSet) : Part :=
  { expr := .one s, size := if s.isAscii then 1 else 2 * s.ranges.length + 8 }

/-- A character by itself. -/
def Part.ofChar (f : Flags) (c : Char) : Part :=
  let set := CharSet.singleton c
  { expr := .one (if f.ascii && 0x80 ≤ c.toNat then set else f.fold set), size := c.utf8Size }

/-- A condition. -/
def Part.ofCondition (condition : Condition) : Part :=
  { expr := .check condition }

/-- A group that is open, or the pattern as a whole: the flags to go back to, the
    alternatives that are complete and the parts of the current one, both last
    first. -/
structure Frame where
  outerFlags : Flags
  branches : List Part := []
  parts : List Part := []
deriving Inhabited

/-- The frame with one more part. -/
def Frame.add (fr : Frame) (p : Part) : Frame :=
  { fr with parts := p :: fr.parts }

/-- What the frame holds, as one part. -/
def Frame.close (fr : Frame) : Part :=
  .eitherAll (Part.seqAll fr.parts.reverse :: fr.branches).reverse

/-- The count of a repetition, blanks around it skipped. -/
def readCount (f : Flags) (cs : List Char) : Option Nat × List Char :=
  let cs := cs.dropWhile Text.isBlank
  let (digits, rest) := digitsOf cs.length cs
  let n := digits.foldl (fun n d => 10 * n + (d.toNat - 0x30)) 0
  (if digits.isEmpty || UInt32.size ≤ n then none else some n, blanksAfter rest.length rest)
where
  /-- The digits in front. -/
  digitsOf (fuel : Nat) (cs : List Char) : List Char × List Char :=
    match fuel, cs with
    | fuel + 1, c :: cs =>
      if c.isDigit then
        let (ds, rest) := digitsOf fuel (skipBlanks f cs)
        (c :: ds, rest)
      else ([], c :: cs)
    | _, cs => ([], cs)
  /-- What follows the blanks after the digits. -/
  blanksAfter (fuel : Nat) (cs : List Char) : List Char :=
    match fuel, cs with
    | fuel + 1, c :: cs => if Text.isBlank c then blanksAfter fuel (skipBlanks f cs) else c :: cs
    | _, cs => cs

/-- The bounds of a counted repetition. The text starts after the opening brace;
    the closing one is taken. -/
def readBounds (f : Flags) (cs : List Char) : Option ((Nat × Option Nat) × List Char) := do
  let (least, rest) := readCount f (skipBlanks f cs)
  let (least, most, rest) ← match rest with
    | ',' :: rest =>
      match skipBlanks f rest with
      | [] => none
      | '\x7d' :: rest => least.map (·, none, '\x7d' :: rest)
      | rest =>
        match least, readCount f rest with
        | some least, (some most, rest) => some (least, some most, rest)
        | _, _ => none
    | rest => least.map fun n => (n, some n, rest)
  match rest with
  | '\x7d' :: rest => if most.all (least ≤ ·) then return ((least, most), rest) else none
  | _ => none

/-- May the character stand in the name of a group? -/
def isNameChar (first : Bool) (c : Char) : Bool :=
  c = '_' ||
    if first then Unicode.alphabeticSet.contains c
    else c = '.' || c = '[' || c = ']' || Unicode.alphanumericSet.contains c

/-- The name of a group. The text starts after the opening angle bracket; the
    closing one is taken. -/
def readGroupName (cs : List Char) : Option (List Char × List Char) := do
  let (name, rest) ← cutAt ['>'] cs
  match name with
  | [] => none
  | c :: more =>
    if isNameChar true c && more.all (isNameChar false) then return (name, rest) else none

/-- The flags of a group. Gives the flags, whether any was named, the character
    that ends them and what follows. -/
def readFlags (f : Flags) (seen : List Char) (negated dangling : Bool) :
    List Char → Option (Flags × Bool × Char × List Char)
  | [] => none
  | c :: cs =>
    if c = ':' || c = ')' then if dangling then none else some (f, !seen.isEmpty, c, cs)
    else if c = '-' then if negated then none else readFlags f seen true true cs
    else if seen.contains c then none
    else
      match f.switch? c (!negated) with
      | none => none
      | some f => readFlags f (c :: seen) negated false cs

/-! ## Whole patterns -/

/-- Where reading stands: the flags in force, the names of groups so far, the open
    groups, innermost first, and the rest of the text. -/
structure State where
  flags : Flags := {}
  names : List (List Char) := []
  top : Frame
  outer : List Frame := []
  rest : List Char

namespace State

/-- The state with one more part, before the given rest. -/
def add (s : State) (p : Part) (rest : List Char) : State :=
  { s with top := s.top.add p, rest }

/-- The state after an opening parenthesis of a group with the given flags. -/
def openGroup (s : State) (flags : Flags) (rest : List Char) : State :=
  { s with flags, top := { outerFlags := s.flags }, outer := s.top :: s.outer, rest }

/-- The last part repeated. Flags and the start of an alternative cannot be. -/
def repeatLast (s : State) (least : Nat) (most : Option Nat) (rest : List Char) : Option State :=
  match s.top.parts with
  | p :: parts =>
    if p.repeatable then
      some { s with top := { s.top with parts := p.times least most :: parts }, rest }
    else none
  | [] => none

/-- What follows an opening parenthesis. -/
def readGroup (s : State) (cs : List Char) : Option State := do
  let cs := skipBlanks s.flags cs
  let startsWith (mark : String) : Bool := mark.toList.isPrefixOf cs
  if ["?=", "?!", "?<=", "?<!"].any startsWith then none
  else if startsWith "?P<" || startsWith "?<" then
    let (name, rest) ← readGroupName (cs.drop (if startsWith "?P<" then 3 else 2))
    if s.names.contains name then none
    else return { s.openGroup s.flags rest with names := name :: s.names }
  else if startsWith "?" then
    let (flags, some?, last, rest) ← readFlags s.flags [] false false (cs.drop 1)
    if last = ':' then return s.openGroup flags rest
    else if some? then
      return { s with flags, top := s.top.add { expr := .empty, repeatable := false }, rest }
    else none
  else return s.openGroup s.flags cs

/-- The state after a closing parenthesis. -/
def closeGroup (s : State) (rest : List Char) : Option State :=
  match s.outer with
  | [] => none
  | parent :: outer =>
    let p := s.top.close
    let group := { p with depth := p.depth + 1, size := p.size + 2, repeatable := true }
    some { s with flags := s.top.outerFlags, top := parent.add group, outer, rest }

/-- The state after the next part of the text. -/
def step (s : State) : List Char → Option State
  | [] => none
  | c :: cs =>
    let f := s.flags
    -- a question mark after a repetition only says that it is not greedy
    let withoutGreed (cs : List Char) : List Char := match cs with
      | '?' :: rest => rest
      | _ => cs
    if c = '(' then s.readGroup cs
    else if c = ')' then s.closeGroup cs
    else if c = '|' then
      let branch := Part.seqAll s.top.parts.reverse
      let top := { s.top with branches := branch :: s.top.branches, parts := [] }
      some { s with top, rest := cs }
    else if c = '[' then do
      let (b, rest) ← openBracket f cs
      let (set, depth, rest) ← readClass f cs.length b [] rest
      return s.add { Part.ofSet set with depth } rest
    else if c = '?' then s.repeatLast 0 (some 1) (withoutGreed cs)
    else if c = '*' then s.repeatLast 0 none (withoutGreed cs)
    else if c = '+' then s.repeatLast 1 none (withoutGreed cs)
    else if c = '\x7b' then do
      let ((least, most), rest) ← readBounds f cs
      s.repeatLast least most (withoutGreed (skipBlanks f rest))
    else if c = '\\' then do
      let (item, rest) ← readEscape f cs
      return s.add (match item with
        | .literal d => .ofChar f d
        | .set set => .ofSet set
        | .check condition => .ofCondition condition) rest
    else if c = '.' then
      if f.ascii then none
      else
        let lineEnds := if f.dotAll then [] else if f.anyLineEnd then ['\n', '\r'] else ['\n']
        some (s.add (.ofSet (CharSet.ofRanges (lineEnds.map fun d => (d.toNat, d.toNat))).compl) cs)
    else if c = '^' then
      some (s.add (.ofCondition (if !f.multiLine then .textStart
        else if f.anyLineEnd then .anyLineStart else .lineStart)) cs)
    else if c = '$' then
      some (s.add (.ofCondition (if !f.multiLine then .textEnd
        else if f.anyLineEnd then .anyLineEnd else .lineEnd)) cs)
    else some (s.add (.ofChar f c) cs)

/-- Reads to the end of the text, at most so many parts. -/
def run (fuel : Nat) (s : State) : Option Part :=
  match fuel, skipBlanks s.flags s.rest with
  | _, [] => if s.outer.isEmpty then some s.top.close else none
  | 0, _ => none
  | fuel + 1, cs => (s.step cs).bind (run fuel)

end State

/-- The pattern that a text spells, if it is one. Every step takes a character, so
    there are no more of them than characters. -/
def ofString? (text : String) : Option Pattern := do
  let cs := text.toList
  let p ← State.run cs.length { top := { outerFlags := {} }, rest := cs }
  if p.depth ≤ maxDepth && p.size ≤ maxSize then return p.expr else none

end HandStudy.Pattern
