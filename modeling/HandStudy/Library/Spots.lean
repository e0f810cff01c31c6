import HandStudy.Document
import HandStudy.Ordered
import HandStudy.Profile

/-!
# The library of spots

A spot is a named situation in a hand. It has conditions that have to hold
together, documents, one of which may be marked as the default, and profiles it
belongs to. As in the library of tags, nothing is required of the entries.
-/

namespace HandStudy

/-- A spot. -/
structure Spot where
  id : Int64
  name : String
  description : Option String := none
deriving DecidableEq, Inhabited

namespace Spot

/-- A spot as JSON. -/
def toJson (s : Spot) : Json :=
  .obj
    [("id", .int s.id.toInt),
     ("name", .str s.name),
     ("description", .ofOption .str s.description)]

open Decode in
/-- How a spot is decoded. -/
def record : Record Spot where
  name := "Spot"
  members :=
    [needed "id" int64 fun v s => { s with id := v },
     needed "name" text fun v s => { s with name := v },
     defaulted "description" (nullable text) fun v s => { s with description := v }]
  blank := { id := 0, name := "" }

end Spot

/-- A condition of a spot: its kind and the parameters that go with the kind. -/
structure SpotRule where
  id : Int64
  spot : Int64
  kind : String
  parameters : Json := .null
deriving Inhabited

namespace SpotRule

/-- A condition as JSON. -/
def toJson (r : SpotRule) : Json :=
  .obj
    [("id", .int r.id.toInt),
     ("spot_id", .int r.spot.toInt),
     ("condition_type", .str r.kind),
     ("condition_params", r.parameters)]

open Decode in
/-- How a condition is decoded. -/
def record : Record SpotRule where
  name := "SpotRule"
  members :=
    [needed "id" int64 fun v r => { r with id := v },
     needed "spot_id" int64 fun v r => { r with spot := v },
     needed "condition_type" text fun v r => { r with kind := v },
     defaulted "condition_params" anything fun v r => { r with parameters := v }]
  blank := { id := 0, spot := 0, kind := "" }

end SpotRule

/-- A link from a spot to a document. -/
structure SpotDocument where
  spot : Int64
  document : Int64
  isDefault : Bool := false
deriving DecidableEq, Inhabited

namespace SpotDocument

/-- A link as JSON. -/
def toJson (l : SpotDocument) : Json :=
  .obj
    [("spot_id", .int l.spot.toInt),
     ("document_id", .int l.document.toInt),
     ("is_default", .bool l.isDefault)]

open Decode in
/-- How a link is decoded. -/
def record : Record SpotDocument where
  name := "SpotDocumentLink"
  members :=
    [needed "spot_id" int64 fun v l => { l with spot := v },
     needed "document_id" int64 fun v l => { l with document := v },
     defaulted "is_default" boolean fun v l => { l with isDefault := v }]
  blank := { spot := 0, document := 0 }

end SpotDocument

/-- A link from a spot to a profile. -/
structure SpotProfile where
  spot : Int64
  profile : String
deriving DecidableEq, Inhabited

namespace SpotProfile

/-- A link as JSON. -/
def toJson (l : SpotProfile) : Json :=
  .obj [("spot_id", .int l.spot.toInt), ("profile_name", .str l.profile)]

open Decode in
/-- How a link is decoded. -/
def record : Record SpotProfile where
  name := "SpotProfileLink"
  members :=
    [needed "spot_id" int64 fun v l => { l with spot := v },
     needed "profile_name" text fun v l => { l with profile := v }]
  blank := ⟨0, ""⟩

end SpotProfile

/-- What is needed to find the spot of a hand. -/
structure SpotLibrary where
  spots : List Spot := []
  rules : List SpotRule := []
  documents : List Document := []
  links : List SpotDocument := []
  profiles : List Profile := []
  profileLinks : List SpotProfile := []
deriving Inhabited

namespace SpotLibrary

/-- The conditions by spot, in the order of the spots' ids. The conditions of one
    spot keep their order. -/
def rulesBySpot (l : SpotLibrary) : List (Int64 × List SpotRule) :=
  Ordered.groupBy SpotRule.spot l.rules

/-- The spot with the given id. -/
def spot? (l : SpotLibrary) (id : Int64) : Option Spot :=
  l.spots.find? (·.id = id)

/-- The document with the given id. -/
def document? (l : SpotLibrary) (id : Int64) : Option Document :=
  Document.find? l.documents id

/-- The links of a spot, sorted by whether they are no default. The sort is stable. -/
def linksInOrder (l : SpotLibrary) (spot : Int64) : List SpotDocument :=
  (l.links.filter (·.spot = spot)).mergeSort fun j k => (!j.isDefault) ≤ (!k.isDefault)

/-- The documents that links lead to, without those that are not there. -/
def follow (l : SpotLibrary) (links : List SpotDocument) : List Document :=
  links.filterMap fun k => l.document? k.document

/-- The documents linked to a spot, those marked as the default first. -/
def documentsFor (l : SpotLibrary) (spot : Int64) : List Document :=
  l.follow (l.linksInOrder spot)

/-- The document that the first default link of a spot leads to. -/
def defaultDocument? (l : SpotLibrary) (spot : Int64) : Option Document :=
  (l.links.find? fun link => link.spot = spot && link.isDefault).bind fun link =>
    l.document? link.document

/-- The profile with the given name. -/
def profile? (l : SpotLibrary) (name : String) : Option Profile :=
  l.profiles.find? (·.isNamed name)

/-- The spots that belong to the profile with the given name. -/
def spotsFor (l : SpotLibrary) (profile : String) : List Spot :=
  l.spots.filter fun s =>
    l.profileLinks.any fun link => link.spot = s.id && Text.sameLetters link.profile profile

/-- A library as JSON. -/
def toJson (l : SpotLibrary) : Json :=
  .obj
    [("spots", .ofList Spot.toJson l.spots),
     ("rules", .ofList SpotRule.toJson l.rules),
     ("documents", .ofList Document.toJson l.documents),
     ("links", .ofList SpotDocument.toJson l.links),
     ("profiles", .ofList Profile.toJson l.profiles),
     ("profile_links", .ofList SpotProfile.toJson l.profileLinks)]

end SpotLibrary

end HandStudy
