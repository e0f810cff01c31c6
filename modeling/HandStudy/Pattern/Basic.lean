import HandStudy.Pattern.Expr
import HandStudy.Unicode.Folding
import HandStudy.Unicode.Word

/-!
# Text patterns

A pattern is an expression over characters. Its conditions are the edges of the
text, of lines and of words. A pattern is searched for: it is found in a text if
some part of the text matches (`Pattern.foundIn`).
-/

namespace HandStudy

namespace Pattern

/-- Edges of words: the boundary between a word character and another one or the
    end of the text, any other place, a boundary of one kind, or the half of such a
    boundary on one side. -/
inductive WordEdge where
  | boundary
  | interior
  | start
  | stop
  | startHalf
  | stopHalf
deriving DecidableEq

/-- Conditions on a place in a text. -/
inductive Condition where
  | textStart
  | textEnd
  | lineStart
  | lineEnd
  /-- The start of a line where lines may end in CR, LF or both. -/
  | anyLineStart
  | anyLineEnd
  /-- The edge of a word, of word characters of all scripts or of ASCII only. -/
  | word (ascii : Bool) (edge : WordEdge)
deriving DecidableEq

/-- The ASCII word characters: letters, digits and the underscore. -/
def asciiWordSet : CharSet :=
  .ofRanges [(0x30, 0x39), (0x41, 0x5A), (0x5F, 0x5F), (0x61, 0x7A)]

/-- Is there a word character on one side of a place? -/
def isWordSide (ascii : Bool) : Option Char → Bool
  | none => false
  | some c => (if ascii then asciiWordSet else Unicode.wordSet).contains c

/-- Does the condition hold between two characters? -/
def Condition.holds (condition : Condition) (before after : Option Char) : Bool :=
  match condition with
  | .textStart => before.isNone
  | .textEnd => after.isNone
  | .lineStart => before.all (· = '\n')
  | .lineEnd => after.all (· = '\n')
  | .anyLineStart => before.all fun c => c = '\n' || (c = '\r' && after ≠ some '\n')
  | .anyLineEnd => after.all fun c => c = '\r' || (c = '\n' && before ≠ some '\r')
  | .word ascii edge =>
    let left := isWordSide ascii before
    let right := isWordSide ascii after
    match edge with
    | .boundary => left != right
    | .interior => left == right
    | .start => !left && right
    | .stop => left && !right
    | .startHalf => !left
    | .stopHalf => !right

/-- Characters, with their sets and edges. -/
def characters : Alphabet CharSet Condition Char :=
  ⟨CharSet.contains, Condition.holds⟩

end Pattern

/-- A pattern of text. -/
abbrev Pattern := Pattern.Expr CharSet Pattern.Condition

/-- Is the pattern found anywhere in the text? -/
def Pattern.foundIn (p : Pattern) (text : String) : Bool :=
  p.occursIn Pattern.characters text.toList.toArray

end HandStudy
