import HandStudy.Store.Basic

/-!
# Changes behind a store's back

What happens to the rows of a store other than by imports: single values are
overwritten, tags are deleted, whole tables are dropped. What refers to a deleted
row goes with it.
-/

namespace HandStudy.Store

/-- Overwrites the parameters of a condition with any text. Gives the number of
    rows that changed as well. -/
def setParameters (s : Store) (id : Int64) (text : String) : Nat × Store :=
  let write (c : StoredCondition) := if c.id = id then { c with parameters := text } else c
  (s.contents.spotRules.countP (·.id = id),
    { s with contents.spotRules := s.contents.spotRules.map write })

/-- Overwrites the format of a profile with any texts. -/
def setProfile (s : Store) (name gameClass variant tableSize : String) : Nat × Store :=
  let write (p : StoredProfile) :=
    if p.isNamed name then { p with gameClass, variant, tableSize } else p
  (s.contents.profiles.countP (·.isNamed name),
    { s with contents.profiles := s.contents.profiles.map write })

/-- Deletes a tag with its rules and links. -/
def deleteTag (s : Store) (id : Int64) : Nat × Store :=
  (s.contents.tags.countP (·.id = id),
    { s with
      contents.tags := s.contents.tags.filter (·.id ≠ id)
      contents.tagDocuments := s.contents.tagDocuments.filter (·.tag ≠ id)
      contents.tagRules := s.contents.tagRules.filter (·.tag ≠ id) })

/-- The contents without the rows of a table and all that refers to them. -/
def cleared (c : Contents) : Table → Contents
  | .documents => { c with documents := [], tagDocuments := [], spotDocuments := [] }
  | .tags => { c with tags := [], tagDocuments := [], tagRules := [] }
  | .tagDocuments => { c with tagDocuments := [] }
  | .tagRules => { c with tagRules := [] }
  | .spots => { c with spots := [], spotRules := [], spotDocuments := [], spotProfiles := [] }
  | .spotRules => { c with spotRules := [] }
  | .spotDocuments => { c with spotDocuments := [] }
  | .profiles => { c with profiles := [], spotProfiles := [] }
  | .spotProfiles => { c with spotProfiles := [] }

/-- Drops a table. -/
def dropTable (s : Store) (t : Table) : Store :=
  ⟨s.tables.erase t, cleared s.contents t⟩

end HandStudy.Store
