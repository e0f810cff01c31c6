/-!
# Blank characters

The characters with the Unicode property `White_Space`, and what is done with
them: stripping them from both ends of a text (`trim`) and cutting a text at
them (`words`). Cutting at any other separator (`fields`) is here as well, since
`words` is one of its uses.
-/

namespace HandStudy.Text

/-- The characters with the Unicode property `White_Space`. -/
def isBlank (c : Char) : Bool :=
  c = ' ' || ('\t' ≤ c && c ≤ '\r') || c = '\u0085' || c = '\u00a0' || c = '\u1680' ||
    ('\u2000' ≤ c && c ≤ '\u200a') || c = '\u2028' || c = '\u2029' || c = '\u202f' ||
    c = '\u205f' || c = '\u3000'

/-- A text without the blanks at its two ends. -/
def trimChars (cs : List Char) : List Char :=
  ((cs.dropWhile isBlank).reverse.dropWhile isBlank).reverse

/-- A text without the blanks at its two ends. -/
def trim (s : String) : String :=
  String.ofList (trimChars s.toList)

/-- The trimmed text, if anything is left of it. -/
def trim? (s : String) : Option String :=
  match trimChars s.toList with
  | [] => none
  | c :: cs => some (String.ofList (c :: cs))

/-- The pieces of a text between its separators: one more than there are
    separators, so neighbouring separators have an empty piece between them. -/
def fields (isSeparator : Char → Bool) : List Char → List (List Char)
  | [] => [[]]
  | c :: cs =>
    if isSeparator c then [] :: fields isSeparator cs
    else
      match fields isSeparator cs with
      | [] => [[c]]
      | piece :: pieces => (c :: piece) :: pieces

/-- The longest runs of characters that are no separators. -/
def tokens (isSeparator : Char → Bool) (s : String) : List String :=
  ((fields isSeparator s.toList).filter (· ≠ [])).map String.ofList

/-- The words of a text: its longest runs of characters that are not blank. -/
def words (s : String) : List String :=
  tokens isBlank s

/-- The trimmed, non-blank entries of a comma-separated list. -/
def listEntries (s : String) : List String :=
  (((fields (· = ',') s.toList).map trimChars).filter (· ≠ [])).map String.ofList

/-- The lines of a text that are not blank, trimmed, each with its number. Lines
    are counted from one, blank ones included. -/
def numberedLines (s : String) : List (Nat × String) :=
  ((fields (· = '\n') s.toList).zipIdx 1).filterMap fun (line, number) =>
    match trimChars line with
    | [] => none
    | c :: cs => some (number, String.ofList (c :: cs))

end HandStudy.Text
