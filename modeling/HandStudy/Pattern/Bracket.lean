import HandStudy.Pattern.Escape

/-!
# Classes in brackets

A class lists characters, ranges and other classes between brackets. Brackets may be
nested, and two sets inside one may be combined by an operation. Brackets that are
still open wait on a stack (`Bracket`) while the inner ones are read (`readClass`).
Case is ignored, where the flags say so, before a class is negated.
-/

namespace HandStudy.Pattern

/-- What is done with two sets inside a bracket. -/
inductive SetOp where
  | inter
  | diff
  | symmDiff

/-- The result of the operation. -/
def SetOp.apply : SetOp → CharSet → CharSet → CharSet
  | .inter => CharSet.inter
  | .diff => CharSet.diff
  | .symmDiff => CharSet.symmDiff

/-- A bracket that is still open: the operation that waits for its right side, and
    the items since then. -/
structure Bracket where
  negated : Bool
  pending : Option (SetOp × CharSet × Nat) := none
  items : List CharSet := []
  depth : Nat := 0

/-- The bracket with one more item of a given depth. -/
def Bracket.add (b : Bracket) (s : CharSet) (depth : Nat := 0) : Bracket :=
  { b with items := s :: b.items, depth := max b.depth depth }

/-- The set of the items read so far, after the pending operation, and its depth. -/
def Bracket.contents (f : Flags) (b : Bracket) : CharSet × Nat :=
  let set := CharSet.ofRanges (b.items.flatMap CharSet.ranges)
  let depth := if b.items.length < 2 then b.depth else b.depth + 1
  match b.pending with
  | none => (set, depth)
  | some (op, left, leftDepth) => (op.apply (f.fold left) (f.fold set), max leftDepth depth + 1)

/-- The set of a bracket that is closed, and its depth. Where only ASCII is meant,
    it must not have other characters. -/
def Bracket.close (f : Flags) (b : Bracket) : Option (CharSet × Nat) :=
  let (set, depth) := b.contents f
  let set := f.fold set
  let set := if b.negated then set.compl else set
  if f.ascii && !set.isAscii then none else some (set, depth + 1)

/-- An opening bracket with the hyphens or the closing bracket that stand for
    themselves at its start. The text starts after the bracket. -/
def openBracket (f : Flags) (cs : List Char) : Option (Bracket × List Char) :=
  let cs := skipBlanks f cs
  let (negated, cs) := match cs with
    | '^' :: rest => (true, skipBlanks f rest)
    | _ => (false, cs)
  match hyphens cs.length cs with
  | (0, ']' :: rest) => some (({ negated } : Bracket).add (.singleton ']'), skipBlanks f rest)
  | (n, rest) =>
    some ((List.replicate n (CharSet.singleton '-')).foldl (·.add ·) { negated }, rest)
where
  /-- The number of hyphens in front, and what follows them. -/
  hyphens (fuel : Nat) (cs : List Char) : Nat × List Char :=
    match fuel, cs with
    | fuel + 1, '-' :: rest =>
      let (n, rest) := hyphens fuel (skipBlanks f rest)
      (n + 1, rest)
    | _, cs => (0, cs)

/-- A named ASCII class. The text starts after its opening bracket; there is no
    such class if anything about it is amiss. -/
def readAsciiClass (f : Flags) : List Char → Option (CharSet × List Char)
  | ':' :: cs => do
    let (negated, cs) := match cs with
      | '^' :: rest => (true, rest)
      | _ => (false, cs)
    let (name, rest) ← cutAt [':'] cs
    match rest with
    | ']' :: rest =>
      let set := f.fold (← asciiClasses.lookup (String.ofList name))
      return (if negated then set.compl else set, rest)
    | _ => none
  | _ => none

/-- One item of a bracket: a character or a class. -/
def readClassItem (f : Flags) : List Char → Option (Escape × List Char)
  | [] => none
  | '\\' :: cs => readEscape f cs
  | c :: cs => some (.literal c, cs)

/-- A character as a set. Where only ASCII is meant it must be ASCII. -/
def literalInClass (f : Flags) (c : Char) : Option CharSet :=
  if f.ascii && 0x80 ≤ c.toNat then none else some (.singleton c)

/-- An item of a bracket or a range between two characters. A hyphen before the end
    of the bracket or before another hyphen makes no range. -/
def readClassRange (f : Flags) (cs : List Char) : Option (CharSet × List Char) := do
  let (item, rest) ← readClassItem f cs
  let rest := skipBlanks f rest
  let single : Option (CharSet × List Char) := match item with
    | .literal c => (literalInClass f c).map (·, rest)
    | .set s => some (s, rest)
    | .check _ => none
  match rest with
  | [] => none
  | '-' :: after =>
    match skipBlanks f after with
    | [] => none
    | ']' :: _ => single
    | '-' :: _ => single
    | after =>
      let (item', rest) ← readClassItem f after
      match item, item' with
      | .literal lo, .literal hi =>
        let _ ← literalInClass f lo
        let _ ← literalInClass f hi
        if lo ≤ hi then return (⟨[(lo.toNat, hi.toNat)]⟩, rest) else none
      | _, _ => none
  | _ => single

/-- The rest of a class: its open brackets, the innermost one apart. Gives the set,
    its depth and what follows. -/
def readClass (f : Flags) (fuel : Nat) (b : Bracket) (outer : List Bracket) (cs : List Char) :
    Option (CharSet × Nat × List Char) :=
  match fuel, skipBlanks f cs with
  | 0, _ => none
  | _, [] => none
  | fuel + 1, c :: cs =>
    let operate (op : SetOp) (rest : List Char) : Option (CharSet × Nat × List Char) :=
      let (set, depth) := b.contents f
      readClass f fuel { negated := b.negated, pending := some (op, set, depth) } outer rest
    if c = '[' then
      match readAsciiClass f cs with
      | some (set, rest) =>
        if f.ascii && !set.isAscii then none else readClass f fuel (b.add set) outer rest
      | none =>
        match openBracket f cs with
        | some (inner, rest) => readClass f fuel inner (b :: outer) rest
        | none => none
    else if c = ']' then
      match b.close f, outer with
      | none, _ => none
      | some (set, depth), [] => some (set, depth, cs)
      | some (set, depth), parent :: outer => readClass f fuel (parent.add set depth) outer cs
    else if c = '&' && cs.head? = some '&' then operate .inter cs.tail
    else if c = '-' && cs.head? = some '-' then operate .diff cs.tail
    else if c = '~' && cs.head? = some '~' then operate .symmDiff cs.tail
    else
      match readClassRange f (c :: cs) with
      | some (set, rest) => readClass f fuel (b.add set) outer rest
      | none => none

end HandStudy.Pattern
