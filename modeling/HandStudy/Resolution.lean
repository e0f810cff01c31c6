import HandStudy.Library.Snapshot
import HandStudy.SpotCondition

/-!
# Finding the spot of a hand

A hand is in a spot when all conditions of the spot hold. A library is meant to
have at most one spot for a hand; if there are several, that is an error, and not
decided by their order. The search can be narrowed to the spots of one profile.
-/

namespace HandStudy

/-- Why no answer can be given to the question for the spot of a hand. -/
inductive SpotError where
  | library (e : LibraryError)
  /-- Several spots match. -/
  | ambiguous (names : List String)
  | unknownProfile (name : String)
deriving DecidableEq, Inhabited

/-- The error in words. -/
def SpotError.message : SpotError → String
  | .library e => e.message
  | .ambiguous names =>
    let list := ", ".intercalate names
    s!"Hand matches {names.length} spots ({list}); " ++
      "the catalog must map a situation to at most one spot"
  | .unknownProfile name => s!"Unknown game profile '{name}'"

namespace SpotLibrary

/-- The spots among the given ones whose conditions hold. -/
def matching (rules : List (Int64 × List SpotRule)) : List Spot → Hand → Logged (List Spot)
  | [], _ => return []
  | s :: spots, h => do
    let here ← match rules.lookup s.id with
      | some conditions => spotMatches conditions h
      | none => pure false
    let others ← matching rules spots h
    return if here then s :: others else others

/-- The one spot among the given ones whose conditions hold, if any. -/
def resolveAmong (l : SpotLibrary) (spots : List Spot) (h : Hand) :
    Logged (Except SpotError (Option Spot)) := do
  match ← matching l.rulesBySpot spots h with
  | [] => return .ok none
  | [s] => do
    Logged.note (.resolved s.name)
    return .ok (some s)
  | several => return .error (.ambiguous (several.map Spot.name))

/-- The spot of a hand. -/
def resolve (l : SpotLibrary) (h : Hand) : Logged (Except SpotError (Option Spot)) :=
  l.resolveAmong l.spots h

/-- The spot of a hand among those of a profile, which the library has to know. -/
def resolveIn (l : SpotLibrary) (profile : String) (h : Hand) :
    Logged (Except SpotError (Option Spot)) :=
  match l.profile? profile with
  | none => return .error (.unknownProfile profile)
  | some p => l.resolveAmong (l.spotsFor p.name) h

end SpotLibrary

/-- A spot with its documents. -/
structure SpotMatch where
  spot : Spot
  defaultDocument : Option Document
  documents : List Document
deriving DecidableEq, Inhabited

/-- A spot with its documents as JSON. -/
def SpotMatch.toJson (m : SpotMatch) : Json :=
  .obj
    [("spot", m.spot.toJson),
     ("default_document", .ofOption Document.toJson m.defaultDocument),
     ("documents", .ofList Document.toJson m.documents)]

namespace SpotLibrary

/-- A spot with its documents. -/
def withDocuments (l : SpotLibrary) (s : Spot) : SpotMatch :=
  ⟨s, l.defaultDocument? s.id, l.documentsFor s.id⟩

/-- The spot of a hand with its documents, among those of a profile if one is
    given. -/
def find (l : SpotLibrary) (profile : Option String) (h : Hand) :
    Logged (Except SpotError (Option SpotMatch)) := do
  let found ← match profile with
    | some name => l.resolveIn name h
    | none => l.resolve h
  return found.map (Option.map l.withDocuments)

end SpotLibrary

end HandStudy
