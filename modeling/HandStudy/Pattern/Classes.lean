import HandStudy.Pattern.Basic
import HandStudy.Text.Blank
import HandStudy.Unicode.ScriptExtensions

/-!
# Character classes by name

The classes that a pattern names: `\d` and its kin, the bracketed ASCII classes
such as `[:alpha:]`, and the properties of Unicode such as `\p\x7bGreek\x7d`.
-/

namespace HandStudy.Pattern

/-- The class of digits, blanks or word characters, by its letter. -/
def letterClass? (ascii : Bool) (letter : Char) : Option CharSet :=
  if letter = 'd' then
    some (if ascii then .ofRanges [(0x30, 0x39)] else Unicode.digitSet)
  else if letter = 's' then
    some (if ascii then .ofRanges [(0x09, 0x0D), (0x20, 0x20)] else Unicode.blankSet)
  else if letter = 'w' then some (if ascii then asciiWordSet else Unicode.wordSet)
  else none

/-- The named ASCII classes. -/
def asciiClasses : List (String × CharSet) := [
  ("alnum", .ofRanges [(0x30, 0x39), (0x41, 0x5A), (0x61, 0x7A)]),
  ("alpha", .ofRanges [(0x41, 0x5A), (0x61, 0x7A)]),
  ("ascii", .ofRanges [(0x00, 0x7F)]),
  ("blank", .ofRanges [(0x09, 0x09), (0x20, 0x20)]),
  ("cntrl", .ofRanges [(0x00, 0x1F), (0x7F, 0x7F)]),
  ("digit", .ofRanges [(0x30, 0x39)]),
  ("graph", .ofRanges [(0x21, 0x7E)]),
  ("lower", .ofRanges [(0x61, 0x7A)]),
  ("print", .ofRanges [(0x20, 0x7E)]),
  ("punct", .ofRanges [(0x21, 0x2F), (0x3A, 0x40), (0x5B, 0x60), (0x7B, 0x7E)]),
  ("space", .ofRanges [(0x09, 0x0D), (0x20, 0x20)]),
  ("upper", .ofRanges [(0x41, 0x5A)]),
  ("word", asciiWordSet),
  ("xdigit", .ofRanges [(0x30, 0x39), (0x41, 0x46), (0x61, 0x66)])]

/-- A name with its case, blanks, underscores, hyphens and a leading `is` taken
    away: what names of properties are compared by. -/
def looseName (name : List Char) : String :=
  let lowered := name.map Char.toLower
  let (hasIs, body) := match lowered with
    | 'i' :: 's' :: rest => (true, rest)
    | _ => (false, lowered)
  let kept := body.filter fun c => c ≠ ' ' && c ≠ '_' && c ≠ '-' && c.toNat < 0x80
  if hasIs && kept = ['c'] then "isc" else String.ofList kept

/-- The class of a property that is given by one name: a binary property, a
    general category or a script. A few short names are those of a category though
    a property has them too. -/
def namedClass? (name : List Char) : Option CharSet :=
  let name := looseName name
  let property := if ["cf", "sc", "lc"].contains name then none else Unicode.property? name
  property <|> Unicode.category? name <|> Unicode.script? name

/-- The class of a property that is given by name and value. -/
def valuedClass? (name value : List Char) : Option CharSet :=
  let name := looseName name
  if name = "gc" || name = "generalcategory" then Unicode.category? (looseName value)
  else if name = "sc" || name = "script" then Unicode.script? (looseName value)
  else if name = "scx" || name = "scriptextensions" then Unicode.scriptUse? (looseName value)
  else none

/-- Cuts a list in two before the first place where the given list starts. -/
def cutAt (mark : List Char) : List Char → Option (List Char × List Char)
  | [] => none
  | c :: cs =>
    if mark.isPrefixOf (c :: cs) then some ([], (c :: cs).drop mark.length)
    else (cutAt mark cs).map fun (before, after) => (c :: before, after)

/-- The class that stands in the braces of a property. The sign between name and
    value makes no difference, even if it is that of inequality. -/
def bracedClass? (inner : List Char) : Option CharSet :=
  match cutAt "!=".toList inner <|> cutAt [':'] inner <|> cutAt ['='] inner with
  | some (name, value) => valuedClass? name value
  | none => namedClass? inner

end HandStudy.Pattern
