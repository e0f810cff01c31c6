import HandStudy.Text.Blank

/-!
# The flop in a hand's history

A history in plain text announces the flop by a marker and a group of cards in
brackets, such as `*** FLOP *** [Jd 3d 5d]`. Blanks may stand around the word and
before the bracket, and the group has at least one character. The first group
marked so is the one that counts, even when it turns out to hold only blanks.
-/

namespace HandStudy.FlopText

/-- What follows a given beginning of a text. -/
def after? (start text : List Char) : Option (List Char) :=
  if start.isPrefixOf text then some (text.drop start.length) else none

/-- A text without the blanks in front. -/
def skipBlanks (text : List Char) : List Char :=
  text.dropWhile Text.isBlank

/-- The inside of a group that starts here: at least one character, up to the
    closing bracket. -/
def inside? (text : List Char) : Option (List Char) :=
  match text.span (· ≠ ']') with
  | (c :: cs, _ :: _) => some (c :: cs)
  | _ => none

/-- The inside of a group whose marker starts here. -/
def groupHere? (text : List Char) : Option (List Char) := do
  let text ← after? ['*', '*', '*'] text
  let text ← after? ['F', 'L', 'O', 'P'] (skipBlanks text)
  let text ← after? ['*', '*', '*'] (skipBlanks text)
  let text ← after? ['['] (skipBlanks text)
  inside? text

/-- The inside of the first marked group. -/
def group? : List Char → Option (List Char)
  | [] => none
  | c :: cs =>
    match groupHere? (c :: cs) with
    | some cards => some cards
    | none => group? cs

/-- The texts of the cards of the flop, if there are any. -/
def cards? (history : String) : Option (List String) :=
  match group? history.toList with
  | none => none
  | some cards =>
    match Text.words (String.ofList cards) with
    | [] => none
    | texts => some texts

end HandStudy.FlopText
