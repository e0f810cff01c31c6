import HandStudy.Library.Spots
import HandStudy.Library.Tags

/-!
# Snapshots of a library

A snapshot is a whole library in one value: what a library file holds, and what it
adds to a store on import. The libraries of tags and of spots are two views of it.
-/

namespace HandStudy

/-- A library is not to be had. -/
structure LibraryError where
  reason : String
deriving DecidableEq, Inhabited

/-- The error in words. -/
def LibraryError.message (e : LibraryError) : String :=
  s!"Rule library unavailable: {e.reason}"

/-- A whole library. -/
structure Snapshot where
  documents : List Document := []
  tags : List Tag := []
  tagRules : List TagRule := []
  tagDocuments : List TagDocument := []
  spots : List Spot := []
  spotRules : List SpotRule := []
  spotDocuments : List SpotDocument := []
  profiles : List Profile := []
  spotProfiles : List SpotProfile := []
deriving Inhabited

namespace Snapshot

/-- The library of tags. -/
def tagLibrary (s : Snapshot) : TagLibrary where
  tags := s.tags
  rules := s.tagRules
  documents := s.documents
  links := s.tagDocuments

/-- The library of spots. -/
def spotLibrary (s : Snapshot) : SpotLibrary where
  spots := s.spots
  rules := s.spotRules
  documents := s.documents
  links := s.spotDocuments
  profiles := s.profiles
  profileLinks := s.spotProfiles

/-- A snapshot as JSON. -/
def toJson (s : Snapshot) : Json :=
  .obj
    [("documents", .ofList Document.toJson s.documents),
     ("tags", .ofList Tag.toJson s.tags),
     ("tag_rules", .ofList TagRule.toJson s.tagRules),
     ("tag_documents", .ofList TagDocument.toJson s.tagDocuments),
     ("spots", .ofList Spot.toJson s.spots),
     ("spot_rules", .ofList SpotRule.toJson s.spotRules),
     ("spot_documents", .ofList SpotDocument.toJson s.spotDocuments),
     ("profiles", .ofList Profile.toJson s.profiles),
     ("spot_profiles", .ofList SpotProfile.toJson s.spotProfiles)]

open Decode in
/-- How a snapshot is decoded. -/
def record : Record Snapshot where
  name := "LibrarySnapshot"
  members :=
    [defaulted "documents" (list Document.record.decode) fun v s => { s with documents := v },
     defaulted "tags" (list Tag.record.decode) fun v s => { s with tags := v },
     defaulted "tag_rules" (list TagRule.decode) fun v s => { s with tagRules := v },
     defaulted "tag_documents" (list TagDocument.record.decode)
       fun v s => { s with tagDocuments := v },
     defaulted "spots" (list Spot.record.decode) fun v s => { s with spots := v },
     defaulted "spot_rules" (list SpotRule.record.decode) fun v s => { s with spotRules := v },
     defaulted "spot_documents" (list SpotDocument.record.decode)
       fun v s => { s with spotDocuments := v },
     defaulted "profiles" (list Profile.decode) fun v s => { s with profiles := v },
     defaulted "spot_profiles" (list SpotProfile.record.decode)
       fun v s => { s with spotProfiles := v }]
  blank := {}

/-- Decodes a snapshot. -/
def decode : Decode.Decoder Snapshot :=
  record.decode

end Snapshot

end HandStudy
