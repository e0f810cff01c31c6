import HandStudy.Store.Basic

/-!
# Importing snapshots

A snapshot is merged into a store entry by entry, in a fixed order of the tables and
in the order of the snapshot (`Snapshot.entries`). An entry replaces the row with the
same key. All are written in one transaction, which stops at the first entry that
would break a rule of the store and is then given up: an import takes effect as a
whole or not at all (`Store.importSnapshot`).

Before each import the store is initialised (`Store.init`), which creates the tables
that are missing and adds the default profiles that are missing. That is kept even
when the import fails.
-/

namespace HandStudy

namespace Contents

/-- Is there a document with this id? -/
def hasDocument (c : Contents) (id : Int64) : Bool :=
  Keyed.has Document.id c.documents id

/-- Is there a tag with this id? -/
def hasTag (c : Contents) (id : Int64) : Bool :=
  Keyed.has Tag.id c.tags id

/-- Is there a spot with this id? -/
def hasSpot (c : Contents) (id : Int64) : Bool :=
  Keyed.has Spot.id c.spots id

/-- The profile with this name. -/
def profile? (c : Contents) (name : String) : Option StoredProfile :=
  c.profiles.find? (·.isNamed name)

/-- The id that the next new profile gets: one more than the greatest. -/
def nextProfileId (c : Contents) : Nat :=
  match c.profiles.getLast? with
  | none => 1
  | some p => p.id + 1

/-- Adds a profile at the end. -/
def addProfile (c : Contents) (p : Profile) : Contents :=
  { c with profiles := c.profiles ++ [.ofProfile c.nextProfileId p] }

/-- Adds a profile, unless there is one with its name. -/
def ensureProfile (c : Contents) (p : Profile) : Contents :=
  if (c.profile? p.name).isSome then c else c.addProfile p

/-- Adds a profile, or gives its format to the one with its name, which keeps its
    place and spelling. -/
def putProfile (c : Contents) (p : Profile) : Contents :=
  if (c.profile? p.name).isSome then
    { c with profiles := c.profiles.map fun q => if q.isNamed p.name then q.withFormat p else q }
  else c.addProfile p

/-- Writes a document. -/
def putDocument (c : Contents) (d : Document) : Except StoreError Contents :=
  .ok { c with documents := Keyed.put Document.id d c.documents }

/-- Writes a tag. No two tags have the same name. -/
def putTag (c : Contents) (t : Tag) : Except StoreError Contents :=
  if c.tags.any fun u => u.name = t.name && u.id ≠ t.id then
    .error (.failed (.insertTag t.id) (.nameTaken .tags))
  else .ok { c with tags := Keyed.put Tag.id t c.tags }

/-- Links a tag to a document. -/
def putTagDocument (c : Contents) (l : TagDocument) : Except StoreError Contents :=
  if c.hasDocument l.document && c.hasTag l.tag then
    .ok { c with tagDocuments := Keyed.put TagDocument.key l c.tagDocuments }
  else .error (.failed .linkTagDocument .missingRow)

/-- Writes a rule of a tag. -/
def putTagRule (c : Contents) (r : TagRule) : Except StoreError Contents :=
  if c.hasTag r.tag then
    .ok { c with tagRules := Keyed.put TagRule.id r.stored c.tagRules }
  else .error (.failed (.insertTagRule r.id) .missingRow)

/-- Writes a spot. No two spots have the same name. -/
def putSpot (c : Contents) (s : Spot) : Except StoreError Contents :=
  if c.spots.any fun u => u.name = s.name && u.id ≠ s.id then
    .error (.failed (.insertSpot s.id) (.nameTaken .spots))
  else .ok { c with spots := Keyed.put Spot.id s c.spots }

/-- Writes a condition of a spot. -/
def putSpotRule (c : Contents) (r : SpotRule) : Except StoreError Contents :=
  if c.hasSpot r.spot then
    .ok { c with spotRules := Keyed.put StoredCondition.id (.ofRule r) c.spotRules }
  else .error (.failed (.insertSpotRule r.id) .missingRow)

/-- Links a spot to a document. -/
def putSpotDocument (c : Contents) (l : SpotDocument) : Except StoreError Contents :=
  if c.hasSpot l.spot && c.hasDocument l.document then
    .ok { c with spotDocuments := Keyed.put SpotDocument.key l c.spotDocuments }
  else .error (.failed .linkSpotDocument .missingRow)

/-- Links a spot to the profile with the given name. -/
def putSpotProfile (c : Contents) (l : SpotProfile) : Except StoreError Contents :=
  match c.profile? l.profile with
  | none => .error (.unknownProfile l.profile l.spot)
  | some p =>
    if c.hasSpot l.spot then
      .ok { c with spotProfiles := Keyed.put (fun k => k) ⟨l.spot, p.id⟩ c.spotProfiles }
    else .error (.failed .linkSpotProfile .missingRow)

end Contents

/-- An entry of a snapshot. -/
inductive Entry where
  | document (d : Document)
  | tag (t : Tag)
  | tagDocument (l : TagDocument)
  | tagRule (r : TagRule)
  | spot (s : Spot)
  | spotRule (r : SpotRule)
  | spotDocument (l : SpotDocument)
  | profile (p : Profile)
  | spotProfile (l : SpotProfile)
deriving Inhabited

/-- The entries of a snapshot in the order in which they are written. -/
def Snapshot.entries (s : Snapshot) : List Entry :=
  s.documents.map .document ++ s.tags.map .tag ++ s.tagDocuments.map .tagDocument ++
    s.tagRules.map .tagRule ++ s.spots.map .spot ++ s.spotRules.map .spotRule ++
    s.spotDocuments.map .spotDocument ++ s.profiles.map .profile ++
    s.spotProfiles.map .spotProfile

/-- Writes an entry, unless it breaks a rule. -/
def Contents.write (c : Contents) : Entry → Except StoreError Contents
  | .document d => c.putDocument d
  | .tag t => c.putTag t
  | .tagDocument l => c.putTagDocument l
  | .tagRule r => c.putTagRule r
  | .spot s => c.putSpot s
  | .spotRule r => c.putSpotRule r
  | .spotDocument l => c.putSpotDocument l
  | .profile p => .ok (c.putProfile p)
  | .spotProfile l => c.putSpotProfile l

/-- A transaction: the contents it started with, and those it has written. -/
structure Transaction where
  before : Contents
  current : Contents

namespace Transaction

/-- A transaction that has written nothing. -/
def start (c : Contents) : Transaction := ⟨c, c⟩

/-- Writes an entry. If that fails, nothing is written by it. -/
def write (t : Transaction) (e : Entry) : Except StoreError Unit × Transaction :=
  match t.current.write e with
  | .ok c => (.ok (), { t with current := c })
  | .error e => (.error e, t)

/-- Writes entries up to the first that fails. Those before it have been written. -/
def writeAll (t : Transaction) : List Entry → Except StoreError Unit × Transaction
  | [] => (.ok (), t)
  | e :: entries =>
    match t.write e with
    | (.ok (), t) => t.writeAll entries
    | (.error e, t) => (.error e, t)

/-- The contents after the transaction. -/
def commit (t : Transaction) : Contents := t.current

/-- The contents after the transaction was given up. -/
def rollback (t : Transaction) : Contents := t.before

end Transaction

/-- How many rows of a snapshot were imported. -/
structure ImportSummary where
  documents : Nat
  tags : Nat
  tagRules : Nat
  spots : Nat
  spotRules : Nat
  profiles : Nat
deriving DecidableEq, Inhabited

/-- A summary as JSON, in this order. -/
def ImportSummary.toJson (s : ImportSummary) : Json :=
  .obj
    [("documents", .int s.documents), ("tags", .int s.tags), ("tag_rules", .int s.tagRules),
     ("spots", .int s.spots), ("spot_rules", .int s.spotRules), ("profiles", .int s.profiles)]

/-- How many rows a snapshot has. -/
def Snapshot.summary (s : Snapshot) : ImportSummary where
  documents := s.documents.length
  tags := s.tags.length
  tagRules := s.tagRules.length
  spots := s.spots.length
  spotRules := s.spotRules.length
  profiles := s.profiles.length

namespace Store

/-- Creates the tables and the default profiles that are missing. -/
def init (s : Store) : Store where
  tables := Table.all
  contents := Profile.defaults.foldl Contents.ensureProfile s.contents

/-- Imports a snapshot: what comes of it and the store afterwards. -/
def importSnapshot (s : Store) (x : Snapshot) : Except StoreError ImportSummary × Store :=
  let ready := s.init
  match (Transaction.start ready.contents).writeAll x.entries with
  | (.ok (), t) => (.ok x.summary, { ready with contents := t.commit })
  | (.error e, t) => (.error e, { ready with contents := t.rollback })

end Store

end HandStudy
