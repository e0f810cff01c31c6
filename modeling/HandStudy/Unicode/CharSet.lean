/-!
# Sets of characters

A set of characters is kept as the ranges of its code points, in increasing order
and with gaps between them. The operations are those of sets: union, complement
(`CharSet.compl`), intersection, difference and symmetric difference. Tables of
characters are written as texts of hexadecimal ranges (`CharSet.ofText`).
-/

namespace HandStudy

/-- A set of characters. -/
structure CharSet where
  ranges : List (Nat × Nat)
deriving Inhabited

namespace CharSet

/-- The largest code point. -/
def lastCodePoint : Nat := 0x10FFFF

/-- Joins the ranges that overlap or touch, given by increasing lower end. The
    first one is the range that is still growing. -/
def joinFrom (lo hi : Nat) : List (Nat × Nat) → List (Nat × Nat)
  | [] => [(lo, hi)]
  | (lo', hi') :: rest =>
    if lo' ≤ hi + 1 then joinFrom lo (max hi hi') rest
    else (lo, hi) :: joinFrom lo' hi' rest

/-- Joins the ranges that overlap or touch, given by increasing lower end. -/
def join : List (Nat × Nat) → List (Nat × Nat)
  | [] => []
  | (lo, hi) :: rest => joinFrom lo hi rest

/-- The characters of some ranges, in any order. -/
def ofRanges (rs : List (Nat × Nat)) : CharSet :=
  ⟨join (rs.mergeSort fun r s => r.1 ≤ s.1)⟩

/-- No character. -/
def empty : CharSet := ⟨[]⟩

/-- One character. -/
def singleton (c : Char) : CharSet := ⟨[(c.toNat, c.toNat)]⟩

/-- Is the code point in one of the ranges? They are in increasing order, so the
    search ends at the first one above it. -/
def inRanges (n : Nat) : List (Nat × Nat) → Bool
  | [] => false
  | (lo, hi) :: rest => lo ≤ n && (n ≤ hi || inRanges n rest)

/-- Is the character in the set? -/
def contains (s : CharSet) (c : Char) : Bool :=
  inRanges c.toNat s.ranges

/-- The characters in one of two sets. -/
def union (s t : CharSet) : CharSet :=
  ofRanges (s.ranges ++ t.ranges)

/-- The ranges between given ones, from a code point on. -/
def gaps (start : Nat) : List (Nat × Nat) → List (Nat × Nat)
  | [] => if start ≤ lastCodePoint then [(start, lastCodePoint)] else []
  | (lo, hi) :: rest =>
    if start < lo then (start, lo - 1) :: gaps (hi + 1) rest else gaps (hi + 1) rest

/-- All other characters. -/
def compl (s : CharSet) : CharSet :=
  ⟨gaps 0 s.ranges⟩

/-- The characters in both of two sets. -/
def inter (s t : CharSet) : CharSet :=
  (s.compl.union t.compl).compl

/-- The characters of the first set that are not in the second. -/
def diff (s t : CharSet) : CharSet :=
  s.inter t.compl

/-- The characters in exactly one of two sets. -/
def symmDiff (s t : CharSet) : CharSet :=
  (s.diff t).union (t.diff s)

/-- Are all characters of the set ASCII? -/
def isAscii (s : CharSet) : Bool :=
  s.ranges.all fun r => r.2 < 0x80

/-! ## Tables -/

/-- Where a table of ranges is being read: the ranges so far, last first, and the
    ends of the current one. -/
structure TableState where
  ranges : List (Nat × Nat) := []
  low : Option Nat := none
  high : Option Nat := none

/-- The ranges after one more character of a table. -/
def TableState.step (s : TableState) (c : Char) : TableState :=
  if c = ' ' || c = '\n' then
    match s.high with
    | none => s
    | some high => { ranges := (s.low.getD high, high) :: s.ranges }
  else if c = '-' then { s with low := s.high, high := none }
  else
    let digit := if c.toNat < 0x3A then c.toNat - 0x30 else c.toNat - 0x37
    { s with high := some (16 * s.high.getD 0 + digit) }

/-- The set that a table lists: ranges such as `41-5A` and single code points such
    as `AA`, in upper-case hexadecimal, in increasing order, with blanks or line
    ends between them. -/
def ofText (table : String) : CharSet :=
  ⟨((table.toList ++ [' ']).foldl TableState.step {}).ranges.reverse⟩

end CharSet

end HandStudy
