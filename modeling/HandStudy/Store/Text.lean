import HandStudy.Store.Basic

/-!
# Stores as text

A store is kept in a file as one JSON object: the names of the tables that there are,
and the rows of each table. Reading gives back what was written
(`Store.text`, `Store.ofText?`).
-/

namespace HandStudy

namespace StoredProfile

open Decode in
/-- How the id of a profile is decoded. -/
def decodeId : Decoder Nat := fun v =>
  (integer 0 Int64.maxValue.toInt "i64" v).map Int.toNat

end StoredProfile

namespace LinkKey

/-- A link to a profile as JSON. -/
def toJson (k : LinkKey Nat) : Json :=
  .arr [.int k.source.toInt, .int k.target]

open Decode in
/-- How a link to a profile is decoded. -/
def record : Record (LinkKey Nat) where
  name := "LinkKey"
  members :=
    [needed "source" int64 fun v k => { k with source := v },
     needed "target" StoredProfile.decodeId fun v k => { k with target := v }]
  blank := ⟨0, 0⟩

end LinkKey

namespace StoredCondition

/-- A condition as it is stored, as JSON. -/
def toJson (c : StoredCondition) : Json :=
  .arr [.int c.id.toInt, .int c.spot.toInt, .str c.kind, .str c.parameters]

open Decode in
/-- How a stored condition is decoded. -/
def record : Record StoredCondition where
  name := "StoredCondition"
  members :=
    [needed "id" int64 fun v c => { c with id := v },
     needed "spot" int64 fun v c => { c with spot := v },
     needed "kind" text fun v c => { c with kind := v },
     needed "parameters" text fun v c => { c with parameters := v }]
  blank := ⟨0, 0, "", ""⟩

end StoredCondition

namespace StoredProfile

/-- A profile as it is stored, as JSON. -/
def toJson (p : StoredProfile) : Json :=
  .arr [.int p.id, .str p.name, .str p.gameClass, .str p.variant, .str p.tableSize]

open Decode in
/-- How a stored profile is decoded. -/
def record : Record StoredProfile where
  name := "StoredProfile"
  members :=
    [needed "id" decodeId fun v p => { p with id := v },
     needed "name" text fun v p => { p with name := v },
     needed "class" text fun v p => { p with gameClass := v },
     needed "variant" text fun v p => { p with variant := v },
     needed "size" text fun v p => { p with tableSize := v }]
  blank := ⟨0, "", "", "", ""⟩

end StoredProfile

namespace Store

/-- A store as JSON. -/
def toJson (s : Store) : Json :=
  let rows (t : Table) (write : Contents → Json) := (t.name, write s.contents)
  .obj
    [("tables", .ofList (fun t => .str t.name) s.tables),
     rows .documents fun c => .ofList Document.toJson c.documents,
     rows .tags fun c => .ofList Tag.toJson c.tags,
     rows .tagDocuments fun c => .ofList TagDocument.toJson c.tagDocuments,
     rows .tagRules fun c => .ofList TagRule.toJson c.tagRules,
     rows .spots fun c => .ofList Spot.toJson c.spots,
     rows .spotRules fun c => .ofList StoredCondition.toJson c.spotRules,
     rows .spotDocuments fun c => .ofList SpotDocument.toJson c.spotDocuments,
     rows .profiles fun c => .ofList StoredProfile.toJson c.profiles,
     rows .spotProfiles fun c => .ofList LinkKey.toJson c.spotProfiles]

open Decode in
/-- How the rows of a table are decoded. -/
def tableMember {α : Type} (t : Table) (row : Decoder α)
    (put : List α → Contents → Contents) : Member Store :=
  needed t.name (list row) fun v s => { s with contents := put v s.contents }

open Decode in
/-- How a store is decoded. -/
def record : Record Store where
  name := "Store"
  members :=
    [needed "tables" (list (choice (Table.all.map fun t => (t.name, t))))
       fun v s => { s with tables := v },
     tableMember .documents Document.record.decode fun v c => { c with documents := v },
     tableMember .tags Tag.record.decode fun v c => { c with tags := v },
     tableMember .tagDocuments TagDocument.record.decode fun v c => { c with tagDocuments := v },
     tableMember .tagRules TagRule.decode fun v c => { c with tagRules := v },
     tableMember .spots Spot.record.decode fun v c => { c with spots := v },
     tableMember .spotRules StoredCondition.record.decode fun v c => { c with spotRules := v },
     tableMember .spotDocuments SpotDocument.record.decode
       fun v c => { c with spotDocuments := v },
     tableMember .profiles StoredProfile.record.decode fun v c => { c with profiles := v },
     tableMember .spotProfiles LinkKey.record.decode fun v c => { c with spotProfiles := v }]
  blank := {}

/-- A store as text. -/
def text (s : Store) : String :=
  s.toJson.print ++ "\n"

/-- The store that a text stands for. -/
def ofText? (text : String) : Option Store := do
  (record.decode (← Json.read text)).toOption

end Store

end HandStudy
