import HandStudy.Json.Decode

/-!
# Documents

A document of study material has a title and a path. Documents are listed by id,
then by title, then by path.
-/

namespace HandStudy

/-- A document. -/
structure Document where
  id : Int64
  title : String
  path : String
deriving DecidableEq, Inhabited

namespace Document

instance : LT Document where
  lt a b := a.id < b.id ∨ a.id = b.id ∧ (a.title < b.title ∨ a.title = b.title ∧ a.path < b.path)

instance : DecidableLT Document := fun a b => inferInstanceAs (Decidable
  (a.id < b.id ∨ a.id = b.id ∧ (a.title < b.title ∨ a.title = b.title ∧ a.path < b.path)))

/-- A document as JSON. -/
def toJson (d : Document) : Json :=
  .obj [("id", .int d.id.toInt), ("title", .str d.title), ("path", .str d.path)]

open Decode in
/-- How a document is decoded. -/
def record : Record Document where
  name := "Document"
  members :=
    [needed "id" int64 fun v d => { d with id := v },
     needed "title" text fun v d => { d with title := v },
     needed "path" text fun v d => { d with path := v }]
  blank := ⟨0, "", ""⟩

/-- The first document with the given id. -/
def find? (documents : List Document) (id : Int64) : Option Document :=
  documents.find? (·.id = id)

end Document

end HandStudy
