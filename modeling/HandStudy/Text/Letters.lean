/-!
# Letter case

Two texts can differ in the case of their ASCII letters only (`sameLetters`):
profile names are compared so. A store compares them in its own way, which is the same
but for texts with a zero character in them (`sameKey`). Free text in which ASCII
keywords are looked for is put in lower case first (`lower`).
-/

namespace HandStudy.Text

/-- Do two texts agree up to the case of their ASCII letters? -/
def sameLetters (s t : String) : Bool :=
  s.toList.map Char.toLower == t.toList.map Char.toLower

theorem sameLetters_iff {s t : String} :
    sameLetters s t ↔ s.toList.map Char.toLower = t.toList.map Char.toLower :=
  beq_iff_eq

@[simp] theorem sameLetters_self (s : String) : sameLetters s s = true :=
  sameLetters_iff.2 rfl

theorem sameLetters_comm (s t : String) : sameLetters s t = sameLetters t s :=
  BEq.comm

/-- Texts that agree agree with the same others. -/
theorem sameLetters_congr {s t : String} (h : sameLetters s t) (u : String) :
    sameLetters s u = sameLetters t u := by
  rw [sameLetters, sameLetters, sameLetters_iff.1 h]

/-- What a store compares of a text whose case does not matter: its length in bytes, and
    the letters up to the first zero character. -/
def key (s : String) : Nat × List Char :=
  (s.utf8ByteSize, (s.toList.takeWhile (· ≠ '\x00')).map Char.toLower)

/-- Are two texts the same to a store in a column where case does not matter? -/
def sameKey (s t : String) : Bool :=
  key s == key t

theorem sameKey_iff {s t : String} : sameKey s t ↔ key s = key t :=
  beq_iff_eq

@[simp] theorem sameKey_self (s : String) : sameKey s s = true :=
  sameKey_iff.2 rfl

theorem sameKey_comm (s t : String) : sameKey s t = sameKey t s :=
  BEq.comm

/-- Texts that are the same to a store are the same as any other. -/
theorem sameKey_congr {s t : String} (h : sameKey s t) (u : String) :
    sameKey s u = sameKey t u := by
  rw [sameKey, sameKey, sameKey_iff.1 h]

/-- The lower case of a character, as far as it has ASCII in it: besides the
    letters A to Z these are the Kelvin sign and the dotted capital I, whose lower
    case is an i followed by a combining dot. A character beyond these is left
    alone: its lower case has no ASCII character, so it has no part in an ASCII
    keyword either way. -/
def lowerChar (c : Char) : List Char :=
  if c = '\u212a' then ['k']
  else if c = '\u0130' then ['i', '\u0307']
  else [c.toLower]

/-- A text in lower case, as far as ASCII keywords are concerned. -/
def lower (s : String) : List Char :=
  s.toList.flatMap lowerChar

/-- Does the text contain the keyword? -/
def mentions (keyword : List Char) : List Char → Bool
  | [] => keyword.isEmpty
  | c :: cs => keyword.isPrefixOf (c :: cs) || mentions keyword cs

end HandStudy.Text
