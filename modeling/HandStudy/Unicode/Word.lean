import HandStudy.Unicode.Category
import HandStudy.Unicode.Property

/-!
# Classes of characters

The classes that texts are searched for by letter: word characters, digits and
blanks. Each is read off the tables of Unicode.
-/

namespace HandStudy.Unicode

/-- Letters, marks, digits, connectors and joiners: the characters of words. -/
def wordSet : CharSet :=
  unionOf ([property? "alphabetic", category? "m", category? "nd", category? "pc",
    property? "joincontrol"].filterMap id)

/-- The decimal digits of all scripts. -/
def digitSet : CharSet :=
  (category? "nd").getD .empty

/-- Blank characters. -/
def blankSet : CharSet :=
  (property? "whitespace").getD .empty

/-- The letters of all scripts, in the wide sense of the property `Alphabetic`. -/
def alphabeticSet : CharSet :=
  (property? "alphabetic").getD .empty

/-- Letters and numbers of all scripts. -/
def alphanumericSet : CharSet :=
  alphabeticSet.union ((category? "n").getD .empty)

/-- The characters that a message shows as they are: not controls, formats,
    private or unassigned ones, not separators other than the blank, and not marks
    that extend the character before them. -/
def shownSet : CharSet :=
  ((unionOf ([category? "other", category? "separator", property? "graphemeextend"].filterMap
    id)).diff (.singleton ' ')).compl

end HandStudy.Unicode
