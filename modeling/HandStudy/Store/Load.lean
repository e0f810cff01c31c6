import HandStudy.Request
import HandStudy.Store.Basic

/-!
# Loading libraries from a store

Each of the two libraries is read table by table. The first table that is missing
is the error. Rows come in the order of their keys.
-/

namespace HandStudy.Store

/-- The rows of a table, which is read for the contents of another or the same
    table. -/
def rowsFor {α : Type} (s : Store) (purpose t : Table) (rows : Contents → List α) :
    Except StoreError (List α) :=
  if t ∈ s.tables then .ok (rows s.contents)
  else .error (.failed (.read purpose) (.missingTable t))

/-- The rows of a table. -/
def rows {α : Type} (s : Store) (t : Table) (rows : Contents → List α) :
    Except StoreError (List α) :=
  s.rowsFor t t rows

/-- The links from spots to profiles, with the names that the profiles are stored
    under. -/
def profileLinks (c : Contents) : List SpotProfile :=
  c.spotProfiles.filterMap fun l =>
    (c.profiles.find? (·.id = l.target)).map fun p => ⟨l.source, p.name⟩

/-- Loads the library of tags. -/
def loadTags (s : Store) : Except StoreError TagLibrary := do
  let tags ← s.rows .tags Contents.tags
  let rules ← s.rows .tagRules Contents.tagRules
  let links ← s.rows .tagDocuments Contents.tagDocuments
  let documents ← s.rows .documents Contents.documents
  return { tags, rules, documents, links }

/-- Loads the library of spots. -/
def loadSpots (s : Store) : Except StoreError SpotLibrary := do
  let spots ← s.rows .spots Contents.spots
  let rules ← s.rows .spotRules Contents.spotRules
  let links ← s.rows .spotDocuments Contents.spotDocuments
  let _ ← s.rows .spotProfiles Contents.spotProfiles
  let profileLinks ← s.rowsFor .spotProfiles .profiles profileLinks
  let documents ← s.rows .documents Contents.documents
  let stored ← s.rows .profiles Contents.profiles
  let profiles ← stored.mapM fun p => p.profile.mapError .badProfile
  let rules := rules.map StoredCondition.rule
  return { spots, rules, documents, links, profiles, profileLinks }

/-- A store as a source of libraries. -/
def source (s : Store) : Source :=
  ⟨s.loadTags.mapError StoreError.libraryError, s.loadSpots.mapError StoreError.libraryError⟩

end HandStudy.Store
