import HandStudy.Glob.Reader
import HandStudy.Pattern.Reader

/-!
# Dialects

Which texts are patterns and globs, and what they mean, is settled by the libraries that search
with them. Rules are evaluated in any dialect of these (`Dialect`). The one that a program runs with
(`Dialect.standard`) reads them as this library does, which does not know all names of classes, and
has a count of its own for the size of a pattern and none for that of a matcher.
-/

namespace HandStudy

/-- What comes of reading a glob. -/
inductive GlobReading where
  | glob (g : Glob)
  | malformed
  /-- The glob is well formed, but so large or nested so deep that there is no matcher for it. -/
  | tooLarge
deriving Inhabited

/-- How patterns and globs are read. -/
class Dialect where
  pattern? : String → Option Pattern
  readGlob : String → GlobReading

/-- The regular expression for a glob must not be nested deeper. -/
def Glob.maxDepth : Nat := 250

/-- Patterns and globs as this library reads them. -/
instance Dialect.standard : Dialect where
  pattern? := Pattern.ofString?
  readGlob text :=
    match Glob.ofString? text with
    | none => .malformed
    | some g => if g.depth ≤ Glob.maxDepth then .glob g else .tooLarge

end HandStudy
