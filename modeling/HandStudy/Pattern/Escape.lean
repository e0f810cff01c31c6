import HandStudy.Pattern.Classes

/-!
# Flags and escapes

How the characters of a pattern are meant depends on flags that are in force at the
place (`Flags`). A backslash and what follows it stand for a character, a class of
characters or a condition (`readEscape`); what an escape means depends on the flags
as well.
-/

namespace HandStudy.Pattern

/-- How the characters of a pattern are meant. -/
structure Flags where
  ignoreCase : Bool := false
  multiLine : Bool := false
  dotAll : Bool := false
  anyLineEnd : Bool := false
  ignoreBlanks : Bool := false
  ascii : Bool := false
deriving Inhabited

/-- The flags with the one of the given letter switched. -/
def Flags.switch? (f : Flags) (letter : Char) (on : Bool) : Option Flags :=
  if letter = 'i' then some { f with ignoreCase := on }
  else if letter = 'm' then some { f with multiLine := on }
  else if letter = 's' then some { f with dotAll := on }
  else if letter = 'R' then some { f with anyLineEnd := on }
  else if letter = 'x' then some { f with ignoreBlanks := on }
  else if letter = 'u' then some { f with ascii := !on }
  else if letter = 'U' then some f
  else none

/-- Closes a set under letter case, if case is ignored. -/
def Flags.fold (f : Flags) (s : CharSet) : CharSet :=
  if !f.ignoreCase then s
  else if !f.ascii then Unicode.closeUnderCase s
  else
    let shifted := (List.range 26).flatMap fun i =>
      if CharSet.inRanges (0x41 + i) s.ranges || CharSet.inRanges (0x61 + i) s.ranges then
        [(0x41 + i, 0x41 + i), (0x61 + i, 0x61 + i)]
      else []
    .ofRanges (s.ranges ++ shifted)

/-- The rest of a pattern without the blanks and comments in front, if these are to
    be ignored. -/
def skipBlanks (f : Flags) (cs : List Char) : List Char :=
  if f.ignoreBlanks then go false cs else cs
where
  /-- Skips blanks, and comments up to the end of their line. -/
  go (inComment : Bool) : List Char → List Char
    | [] => []
    | c :: cs =>
      if inComment then go (c ≠ '\n') cs
      else if Text.isBlank c then go false cs
      else if c = '#' then go true cs
      else c :: cs

/-! ## Escapes -/

/-- What a backslash and what follows it stand for. -/
inductive Escape where
  | literal (c : Char)
  | set (s : CharSet)
  | check (condition : Condition)

/-- The value of hexadecimal digits. -/
def hexValue? (cs : List Char) : Option Nat :=
  cs.foldlM (fun n c =>
    if '0' ≤ c && c ≤ '9' then some (16 * n + (c.toNat - 0x30))
    else if 'a' ≤ c && c ≤ 'f' then some (16 * n + (c.toNat - 0x57))
    else if 'A' ≤ c && c ≤ 'F' then some (16 * n + (c.toNat - 0x37))
    else none) 0

/-- The character of a code point, if it is one of a character. -/
def charOf? (n : Nat) : Option Char :=
  if n.isValidChar then some (Char.ofNat n) else none

/-- A number of characters, blanks between them skipped. -/
def takeChars (f : Flags) : Nat → List Char → Option (List Char × List Char)
  | 0, cs => some ([], cs)
  | n + 1, cs =>
    match skipBlanks f cs with
    | [] => none
    | c :: cs => (takeChars f n cs).map fun (taken, rest) => (c :: taken, rest)

/-- The characters up to a closing brace, blanks skipped; the brace is taken. -/
def takeBraced (f : Flags) (fuel : Nat) (cs : List Char) : Option (List Char × List Char) :=
  match fuel, skipBlanks f cs with
  | fuel + 1, c :: cs =>
    if c = '\x7d' then some ([], cs)
    else (takeBraced f fuel cs).map fun (taken, rest) => (c :: taken, rest)
  | _, _ => none

/-- A character given by its code point: so many digits, or any in braces. The text
    starts after the letter of the escape. -/
def readHex (f : Flags) (digits : Nat) (cs : List Char) : Option (Char × List Char) := do
  match skipBlanks f cs with
  | '\x7b' :: cs =>
    let (inner, rest) ← takeBraced f cs.length cs
    if inner.isEmpty then none
    else return (← charOf? (← hexValue? inner), skipBlanks f rest)
  | cs =>
    let (inner, rest) ← takeChars f digits cs
    return (← charOf? (← hexValue? inner), skipBlanks f rest)

/-- A property of Unicode. The text starts after the letter of the escape. -/
def readProperty (f : Flags) (negated : Bool) (cs : List Char) :
    Option (CharSet × List Char) := do
  if f.ascii then none
  let (set, rest) ← match skipBlanks f cs with
    | [] => none
    | '\\' :: _ => none
    | '\x7b' :: cs =>
      match takeBraced f cs.length cs with
      | none => none
      | some (inner, rest) => (bracedClass? inner).map (·, rest)
    | c :: cs => (namedClass? [c]).map (·, skipBlanks f cs)
  let set := f.fold set
  return (if negated then set.compl else set, rest)

/-- The edge of a word that has a name in braces. -/
def wordEdge? (name : List Char) : Option WordEdge :=
  [("start", WordEdge.start), ("end", .stop), ("start-half", .startHalf),
    ("end-half", .stopHalf)].lookup (String.ofList name)

/-- The name of an edge in braces, if that is what the text starts with and not the
    count of a repetition. The text starts after the opening brace. The outer option
    tells a fault, the inner one a text of another kind. -/
def readEdgeName (f : Flags) (cs : List Char) : Option (Option (WordEdge × List Char)) :=
  let isNameChar (c : Char) : Bool := c.isAlpha || c = '-'
  match skipBlanks f cs with
  | [] => none
  | c :: rest =>
    if !isNameChar c then some none
    else do
      let (inner, after) ← takeBraced f (c :: rest).length (c :: rest)
      return some (← wordEdge? inner, after)

/-- Characters that mean themselves after a backslash: all of ASCII but letters,
    digits and angle brackets. -/
def isEscapable (c : Char) : Bool :=
  c.toNat < 0x80 && !c.isAlphanum && c ≠ '<' && c ≠ '>'

/-- Controls that have a letter. -/
def control? (c : Char) : Option Char :=
  [('a', '\x07'), ('f', '\x0c'), ('t', '\t'), ('n', '\n'), ('r', '\r'),
    ('v', '\x0b')].lookup c

/-- An escape. The text starts after the backslash. -/
def readEscape (f : Flags) : List Char → Option (Escape × List Char)
  | [] => none
  | c :: cs =>
    let word (edge : WordEdge) : Escape := .check (.word f.ascii edge)
    if c = 'x' || c = 'u' || c = 'U' then do
      let digits := if c = 'x' then 2 else if c = 'u' then 4 else 8
      let (d, rest) ← readHex f digits cs
      -- two digits are a byte where only ASCII is meant, and a byte has to be ASCII
      let isByte := f.ascii && c = 'x' && (skipBlanks f cs).head? ≠ some '\x7b'
      if isByte && 0x80 ≤ d.toNat then none else return (.literal d, rest)
    else if c = 'p' || c = 'P' then
      (readProperty f (c = 'P') cs).map fun (set, rest) => (.set set, rest)
    else if let some set := letterClass? f.ascii c.toLower then
      if c.isLower then some (.set set, cs)
      else if f.ascii then none
      else some (.set set.compl, cs)
    else if isEscapable c then some (.literal c, cs)
    else if let some d := control? c then some (.literal d, cs)
    else if c = 'A' then some (.check .textStart, cs)
    else if c = 'z' then some (.check .textEnd, cs)
    else if c = 'B' then some (word .interior, cs)
    else if c = '<' then some (word .start, cs)
    else if c = '>' then some (word .stop, cs)
    else if c = 'b' then
      match cs with
      | '\x7b' :: inner =>
        match readEdgeName f inner with
        | none => none
        | some none => some (word .boundary, cs)
        | some (some (edge, rest)) => some (word edge, rest)
      | _ => some (word .boundary, cs)
    else none

end HandStudy.Pattern
