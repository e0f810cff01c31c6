import HandStudy.Library.Tags
import HandStudy.TagRule.Evaluation

/-!
# Classifying hands

A tag is active for a hand when one of its rules matches. Rules are alternatives,
so a broken one takes nothing from the others: it is noted and counts as one that
does not match. The documents of a hand are those linked to its active tags.

The rules of a library are compiled once for many hands (`PreparedTags`); that is
when rules with bad patterns are noted and dropped, and when a glob that is too large
breaks everything off.
-/

namespace HandStudy

/-- What a hand is classified as. -/
structure Classification where
  /-- The set of active tags. -/
  tags : List Int64
  /-- The names of those that the library has an entry for. -/
  tagNames : List String
  /-- The set of documents. -/
  documents : List Document
deriving DecidableEq, Inhabited

namespace Classification

/-- The fields of a classification's JSON object. -/
def fields (c : Classification) : List (String × Json) :=
  [("tags", .ofList (fun id => .int id.toInt) c.tags),
   ("tag_names", .ofList .str c.tagNames),
   ("documents", .ofList Document.toJson c.documents)]

/-- A classification as JSON. -/
def toJson (c : Classification) : Json :=
  .obj c.fields

end Classification

/-- The set of documents linked to a set of tags. -/
def TagLibrary.documentsForAll (l : TagLibrary) (tags : List Int64) : List Document :=
  Ordered.ofList (tags.flatMap l.documentsFor)

/-- A library of tags with its rules compiled. -/
structure PreparedTags where
  library : TagLibrary
  /-- The rules that can be evaluated, by tag. -/
  rules : List (Int64 × List CompiledRule)

variable [Dialect]

/-- Compiles rules, dropping those with a fault. -/
def compileRules : List TagRule → Logged (List CompiledRule)
  | [] => return []
  | r :: rules => do
    match ← r.build with
    | .ok c => return c :: (← compileRules rules)
    | .error e => do
      Logged.note (.ruleSkipped e)
      compileRules rules

/-- Compiles the rules of several tags. -/
def compileGroups : List (Int64 × List TagRule) → Logged (List (Int64 × List CompiledRule))
  | [] => return []
  | (tag, rules) :: groups => do
    let compiled ← compileRules rules
    return (tag, compiled) :: (← compileGroups groups)

/-- The library with its rules compiled. -/
def TagLibrary.prepare (l : TagLibrary) : Logged PreparedTags := do
  return ⟨l, ← compileGroups l.rulesByTag⟩

/-- Does one of the rules match? They are tried in order, up to the first match. -/
def anyMatches : List CompiledRule → Hand → Logged Bool
  | [], _ => return false
  | c :: rules, h => do
    match ← c.check h with
    | .ok true => return true
    | .ok false => anyMatches rules h
    | .error e => do
      Logged.note (.ruleSkipped e)
      anyMatches rules h

/-- The tags with a rule that matches. -/
def activeAmong : List (Int64 × List CompiledRule) → Hand → Logged (List Int64)
  | [], _ => return []
  | (tag, rules) :: groups, h => do
    let active ← anyMatches rules h
    let others ← activeAmong groups h
    return if active then tag :: others else others

namespace PreparedTags

/-- The set of tags that are active for a hand. -/
def activeTags (p : PreparedTags) (h : Hand) : Logged (List Int64) :=
  activeAmong p.rules h

/-- Classifies a hand. -/
def classify (p : PreparedTags) (h : Hand) : Logged Classification := do
  let tags ← p.activeTags h
  let documents := p.library.documentsForAll tags
  Logged.note (.classified p.library.rules.length tags.length documents.length)
  return ⟨tags, tags.filterMap fun id => (p.library.tag? id).map Tag.name, documents⟩

end PreparedTags

namespace TagLibrary

/-- The set of tags that are active for a hand. -/
def activeTags (l : TagLibrary) (h : Hand) : Logged (List Int64) := do
  (← l.prepare).activeTags h

/-- The set of documents for a hand. -/
def relevantDocuments (l : TagLibrary) (h : Hand) : Logged (List Document) := do
  return l.documentsForAll (← l.activeTags h)

/-- Classifies a hand. -/
def classify (l : TagLibrary) (h : Hand) : Logged Classification := do
  (← l.prepare).classify h

/-- Classifies many hands, compiling the rules once. -/
def classifyAll (l : TagLibrary) (hands : List Hand) : Logged (List Classification) := do
  let prepared ← l.prepare
  hands.mapM prepared.classify

end TagLibrary

end HandStudy
