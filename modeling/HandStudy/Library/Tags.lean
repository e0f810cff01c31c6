import HandStudy.Document
import HandStudy.TagRule

/-!
# The library of tags

Tags, the rules that say which hands they apply to, and the documents linked to
them. Nothing is required of a library: ids may repeat, and rules and links may
refer to what is not there. Of several entries with one id the first is found.
-/

namespace HandStudy

/-- A tag. -/
structure Tag where
  id : Int64
  name : String
  description : Option String := none
deriving DecidableEq, Inhabited

namespace Tag

/-- A tag as JSON. -/
def toJson (t : Tag) : Json :=
  .obj
    [("id", .int t.id.toInt),
     ("name", .str t.name),
     ("description", .ofOption .str t.description)]

open Decode in
/-- How a tag is decoded. -/
def record : Record Tag where
  name := "Tag"
  members :=
    [needed "id" int64 fun v t => { t with id := v },
     needed "name" text fun v t => { t with name := v },
     defaulted "description" (nullable text) fun v t => { t with description := v }]
  blank := { id := 0, name := "" }

end Tag

/-- A link from a tag to a document. -/
structure TagDocument where
  tag : Int64
  document : Int64
deriving DecidableEq, Inhabited

namespace TagDocument

/-- A link as JSON. -/
def toJson (l : TagDocument) : Json :=
  .obj [("tag_id", .int l.tag.toInt), ("document_id", .int l.document.toInt)]

open Decode in
/-- How a link is decoded. -/
def record : Record TagDocument where
  name := "TagDocumentLink"
  members :=
    [needed "tag_id" int64 fun v l => { l with tag := v },
     needed "document_id" int64 fun v l => { l with document := v }]
  blank := ⟨0, 0⟩

end TagDocument

/-- What is needed to classify hands. -/
structure TagLibrary where
  tags : List Tag := []
  rules : List TagRule := []
  documents : List Document := []
  links : List TagDocument := []
deriving Inhabited

namespace TagLibrary

/-- The rules by tag, in the order of the tags' ids. The rules of one tag keep
    their order. -/
def rulesByTag (l : TagLibrary) : List (Int64 × List TagRule) :=
  Ordered.groupBy TagRule.tag l.rules

/-- The tag with the given id. -/
def tag? (l : TagLibrary) (id : Int64) : Option Tag :=
  l.tags.find? (·.id = id)

/-- The document with the given id. -/
def document? (l : TagLibrary) (id : Int64) : Option Document :=
  Document.find? l.documents id

/-- The documents linked to a tag, in the order of the links. -/
def documentsFor (l : TagLibrary) (tag : Int64) : List Document :=
  (l.links.filter (·.tag = tag)).filterMap fun link => l.document? link.document

/-- A library as JSON. -/
def toJson (l : TagLibrary) : Json :=
  .obj
    [("tags", .ofList Tag.toJson l.tags),
     ("rules", .ofList TagRule.toJson l.rules),
     ("documents", .ofList Document.toJson l.documents),
     ("links", .ofList TagDocument.toJson l.links)]

end TagLibrary

end HandStudy
