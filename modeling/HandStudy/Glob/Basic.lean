import HandStudy.Pattern.Expr

/-!
# Globs

A glob describes whole texts with wildcards. It is made of tokens (`Glob.Token`)
and matches on the bytes of a text, so a question mark stands for one byte and a
class for single bytes. The wildcards match the separator `/` as any other byte;
only the double star keeps to the parts between separators.
-/

namespace HandStudy

namespace Glob

/-- The parts of a glob. -/
inductive Token where
  | literal (c : Char)
  /-- Any one byte. -/
  | any
  /-- Any bytes. -/
  | anyMany
  /-- Any leading directories: `**/` at the start. -/
  | leadingDirs
  /-- Everything below a directory: `/**` at the end. -/
  | allBelow
  /-- Any directories in between: `/**/`. -/
  | innerDirs
  /-- One of a class of characters, or one of all others. -/
  | oneOf (negated : Bool) (ranges : List (Char × Char))
  /-- One of several sequences of tokens. -/
  | alternatives (branches : List (List Token))
deriving Inhabited

/-- A set of bytes: those of some ranges, or all others. -/
structure ByteSet where
  negated : Bool
  ranges : List (UInt8 × UInt8)

/-- Is the byte in the set? -/
def ByteSet.contains (s : ByteSet) (b : UInt8) : Bool :=
  s.negated != s.ranges.any fun (lo, hi) => lo ≤ b && b ≤ hi

/-- All bytes. -/
def ByteSet.all : ByteSet := ⟨true, []⟩

/-- One byte. -/
def ByteSet.singleton (b : UInt8) : ByteSet := ⟨false, [(b, b)]⟩

/-- Bytes. Globs have no conditions on places. -/
def bytes : Pattern.Alphabet ByteSet Empty UInt8 :=
  ⟨ByteSet.contains, nofun⟩

/-- Expressions over bytes. -/
abbrev ByteExpr := Pattern.Expr ByteSet Empty

/-- The bytes of a character. -/
def encode (c : Char) : List UInt8 :=
  c.toString.toUTF8.toList

/-- The byte ranges of a range of characters. Each byte of a longer character stands
    for itself, and the range is one between the last byte of its lower end and the
    first byte of its upper end. -/
def byteRanges (lo hi : Char) : List (UInt8 × UInt8) :=
  let single (b : UInt8) : UInt8 × UInt8 := (b, b)
  if lo = hi then (encode lo).map single
  else
    match (encode lo).reverse, encode hi with
    | last :: before, first :: after =>
      before.reverse.map single ++ (last, first) :: after.map single
    | _, _ => []

mutual

/-- The expression of a token. There is none for alternatives that are all
    empty. -/
def Token.expr? : Token → Option ByteExpr
  | .literal c => some (.seqAll ((encode c).map fun b => .one (.singleton b)))
  | .any => some (.one .all)
  | .anyMany => some (.times (.one .all) 0 none)
  | .leadingDirs =>
    some (.either (.times (.one (.singleton 0x2F)) 0 (some 1))
      (.seq (.times (.one .all) 0 none) (.one (.singleton 0x2F))))
  | .allBelow => some (.seq (.one (.singleton 0x2F)) (.times (.one .all) 0 none))
  | .innerDirs =>
    some (.either (.one (.singleton 0x2F))
      (.seq (.one (.singleton 0x2F))
        (.seq (.times (.one .all) 0 none) (.one (.singleton 0x2F)))))
  | .oneOf negated ranges => some (.one ⟨negated, ranges.flatMap fun (lo, hi) => byteRanges lo hi⟩)
  | .alternatives branches =>
    match branchExprs branches with
    | [] => none
    | es => some (.eitherAll es)

/-- The expressions of a sequence of tokens. -/
def exprs : List Token → List ByteExpr
  | [] => []
  | t :: ts => t.expr?.toList ++ exprs ts

/-- The expressions of alternatives, the empty ones left out. -/
def branchExprs : List (List Token) → List ByteExpr
  | [] => []
  | branch :: branches =>
    match exprs branch with
    | [] => branchExprs branches
    | es => .seqAll es :: branchExprs branches

end

end Glob

/-- A glob: its tokens in order. -/
structure Glob where
  tokens : List Glob.Token
deriving Inhabited

/-- The expression that a whole text has to match. A double star alone matches
    everything. -/
def Glob.expr (g : Glob) : Glob.ByteExpr :=
  match g.tokens with
  | [.leadingDirs] => .times (.one .all) 0 none
  | tokens => .seqAll (Glob.exprs tokens)

/-! ## Nesting -/

namespace Glob

/-- How many parts a regular expression for some tokens has, and how deep they are nested. -/
structure Shape where
  parts : Nat
  depth : Nat

/-- Expressions one after another. -/
def Shape.append (s t : Shape) : Shape := ⟨s.parts + t.parts, max s.depth t.depth⟩

/-- How deep an expression is nested as a whole: several parts are nested in a sequence. -/
def Shape.total (s : Shape) : Nat :=
  if s.parts = 1 then s.depth else s.depth + 1

mutual

/-- The shape of a token. Alternatives are nested in a group, and in a choice if there is one. -/
def Token.shape : Token → Shape
  | .literal c => ⟨(encode c).length, 0⟩
  | .any => ⟨1, 0⟩
  | .anyMany => ⟨1, 1⟩
  | .leadingDirs | .innerDirs => ⟨1, 4⟩
  | .allBelow => ⟨2, 1⟩
  | .oneOf _ ranges =>
    ⟨1, if (ranges.flatMap fun (lo, hi) => byteRanges lo hi).length = 1 then 1 else 2⟩
  | .alternatives branches =>
    match branchShapes branches with
    | [] => ⟨0, 0⟩
    | [s] => ⟨1, s.total + 1⟩
    | ss => ⟨1, (ss.map Shape.total).foldl max 0 + 2⟩

/-- The shape of a sequence of tokens. -/
def shape : List Token → Shape
  | [] => ⟨0, 0⟩
  | t :: ts => t.shape.append (shape ts)

/-- The shapes of alternatives, the empty ones left out. -/
def branchShapes : List (List Token) → List Shape
  | [] => []
  | branch :: branches =>
    let s := shape branch
    if s.parts = 0 then branchShapes branches else s :: branchShapes branches

end

end Glob

/-- How deep the regular expression for a glob is nested. Its tokens stand between the edges of
    the text. -/
def Glob.depth (g : Glob) : Nat :=
  (Glob.shape g.tokens).depth + 1

/-- Does the whole text match the glob? -/
def Glob.accepts (g : Glob) (text : String) : Bool :=
  g.expr.matchesAll Glob.bytes text.toUTF8.data

end HandStudy
