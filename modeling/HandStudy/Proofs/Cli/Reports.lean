import HandStudy.Proofs.Cli.Transcript
import HandStudy.Proofs.Json.Canonical

/-!
# What is reported of a hand

A report is an object with its keys in order (`Cli.classifiedObject`, `Cli.resolvedObject`), which
can be read from the line it is written on.
-/

namespace HandStudy

theorem Json.canonical_ofList {α : Type} (write : α → Json) (l : List α) :
    (ofList write l).canonical = ofList (fun a => (write a).canonical) l := by
  rw [ofList, canonical, canonicalItems_eq_map, List.map_map]
  rfl

theorem Json.canonical_ofOption {α : Type} (write : α → Json) (o : Option α) :
    (ofOption write o).canonical = ofOption (fun a => (write a).canonical) o := by
  cases o <;> rfl

namespace Cli

/-- A document with its keys in order. -/
def documentObject (d : Document) : Json :=
  .obj [("id", .int d.id.toInt), ("path", .str d.path), ("title", .str d.title)]

theorem lastsWithin_documentObject (d : Document) : (documentObject d).LastsWithin 1 :=
  Json.lastsWithin_obj
    ⟨Json.lastsWithin_int64 0 d.id, Json.lastsWithin_str 0 d.path, Json.lastsWithin_str 0 d.title⟩

/-! ## Classifications -/

/-- What is reported of a hand that is classified: its documents, what it is called, and its
    tags. -/
def classifiedObject (label : String) (c : Classification) : Json :=
  .obj
    [("documents", .ofList documentObject c.documents),
     ("hand", .str label),
     ("tag_names", .ofList .str c.tagNames),
     ("tags", .ofList (fun id => .int id.toInt) c.tags)]

theorem classifiedJson_eq (h : LoadedHand) (c : Classification) :
    classifiedJson h c = classifiedObject h.label c := by
  have hfields : classifiedJson h c = .obj
      [("documents", (Json.ofList Document.toJson c.documents).canonical),
       ("hand", .str h.label),
       ("tag_names", (Json.ofList .str c.tagNames).canonical),
       ("tags", (Json.ofList (fun id => .int id.toInt) c.tags).canonical)] := rfl
  simp only [hfields, Json.canonical_ofList]
  rfl

theorem lastsWithin_classifiedObject (label : String) (c : Classification) :
    (classifiedObject label c).LastsWithin 3 :=
  Json.lastsWithin_obj
    ⟨Json.lastsWithin_ofList lastsWithin_documentObject c.documents,
      Json.lastsWithin_str 2 label,
      Json.lastsWithin_ofList (Json.lastsWithin_str 1) c.tagNames,
      Json.lastsWithin_ofList (Json.lastsWithin_int64 1 ·) c.tags⟩

/-! ## Spots -/

/-- A spot with its documents, with its keys in order. -/
def matchObject (m : SpotMatch) : Json :=
  .obj
    [("default_document", .ofOption documentObject m.defaultDocument),
     ("documents", .ofList documentObject m.documents),
     ("spot", .obj
       [("description", .ofOption .str m.spot.description),
        ("id", .int m.spot.id.toInt),
        ("name", .str m.spot.name)])]

/-- What is reported of a hand whose spot is looked up: what it is called, and the spot, if it is
    in one. -/
def resolvedObject (label : String) (m : Option SpotMatch) : Json :=
  .obj [("hand", .str label), ("spot", .ofOption matchObject m)]

theorem canonical_toJson (m : SpotMatch) : m.toJson.canonical = matchObject m := by
  have hfields : m.toJson.canonical = .obj
      [("default_document", (Json.ofOption Document.toJson m.defaultDocument).canonical),
       ("documents", (Json.ofList Document.toJson m.documents).canonical),
       ("spot", .obj
         [("description", (Json.ofOption .str m.spot.description).canonical),
          ("id", .int m.spot.id.toInt),
          ("name", .str m.spot.name)])] := rfl
  simp only [hfields, Json.canonical_ofList, Json.canonical_ofOption]
  rfl

theorem resolvedJson_eq (h : LoadedHand) (m : Option SpotMatch) :
    resolvedJson h m = resolvedObject h.label m := by
  have hfields : resolvedJson h m = .obj
      [("hand", .str h.label), ("spot", (Json.ofOption SpotMatch.toJson m).canonical)] := rfl
  simp only [hfields, Json.canonical_ofOption, canonical_toJson]
  rfl

theorem lastsWithin_matchObject (m : SpotMatch) : (matchObject m).LastsWithin 3 := by
  have hdefault := Json.lastsWithin_ofOption lastsWithin_documentObject m.defaultDocument
  exact Json.lastsWithin_obj
    ⟨hdefault.mono (by decide),
      Json.lastsWithin_ofList lastsWithin_documentObject m.documents,
      Json.lastsWithin_obj
        ⟨Json.lastsWithin_ofOption (Json.lastsWithin_str 1) m.spot.description,
          Json.lastsWithin_int64 1 m.spot.id, Json.lastsWithin_str 1 m.spot.name⟩⟩

theorem lastsWithin_resolvedObject (label : String) (m : Option SpotMatch) :
    (resolvedObject label m).LastsWithin 4 :=
  Json.lastsWithin_obj
    ⟨Json.lastsWithin_str 3 label, Json.lastsWithin_ofOption lastsWithin_matchObject m⟩

end Cli

end HandStudy
