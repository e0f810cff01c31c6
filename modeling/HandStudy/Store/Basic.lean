import HandStudy.Json.Printer
import HandStudy.Json.Reader
import HandStudy.Keyed
import HandStudy.Library.Snapshot

/-!
# The contents of a store

A store keeps a library in tables. Every row has a key, tags and spots have names of
their own, and a link or rule always has the rows it refers to: taking away a row
takes away what refers to it. Two things are kept as text, so that a row may hold
what is no longer understood: the parameters of a condition and the format of a
profile.
-/

namespace HandStudy

/-- The tables of a store. -/
inductive Table where
  | documents
  | tags
  | tagDocuments
  | tagRules
  | spots
  | spotRules
  | spotDocuments
  | profiles
  | spotProfiles
deriving DecidableEq, Inhabited

namespace Table

/-- All tables. -/
def all : List Table :=
  [documents, tags, tagDocuments, tagRules, spots, spotRules, spotDocuments, profiles,
    spotProfiles]

/-- The name of a table. -/
def name : Table → String
  | documents => "study_documents"
  | tags => "study_tags"
  | tagDocuments => "study_document_tags"
  | tagRules => "study_tag_rules"
  | spots => "poker_spots"
  | spotRules => "spot_rules"
  | spotDocuments => "spot_document_links"
  | profiles => "game_profiles"
  | spotProfiles => "spot_profile_links"

end Table

/-- The key of a link: the ids of what it links, the second of a type of its own. -/
structure LinkKey (τ : Type) where
  source : Int64
  target : τ
deriving DecidableEq, Inhabited

namespace LinkKey

variable {τ : Type} [LT τ]

instance : LT (LinkKey τ) where
  lt a b := a.source < b.source ∨ a.source = b.source ∧ a.target < b.target

instance [DecidableEq τ] [DecidableLT τ] : DecidableLT (LinkKey τ) := fun a b =>
  inferInstanceAs (Decidable (a.source < b.source ∨ a.source = b.source ∧ a.target < b.target))

end LinkKey

/-- The key of a link from a tag. -/
def TagDocument.key (l : TagDocument) : LinkKey Int64 := ⟨l.tag, l.document⟩

/-- The key of a link from a spot. -/
def SpotDocument.key (l : SpotDocument) : LinkKey Int64 := ⟨l.spot, l.document⟩

/-- A condition with its parameters as text. -/
structure StoredCondition where
  id : Int64
  spot : Int64
  kind : String
  parameters : String
deriving DecidableEq, Inhabited

namespace StoredCondition

/-- A condition as it is stored. -/
def ofRule (r : SpotRule) : StoredCondition :=
  ⟨r.id, r.spot, r.kind, r.parameters.print⟩

/-- The condition, its parameters being null if the text is no JSON. -/
def rule (c : StoredCondition) : SpotRule :=
  ⟨c.id, c.spot, c.kind, ((Json.readWhole c.parameters).map Json.canonical).getD .null⟩

end StoredCondition

/-- A profile with an id of its own and the parts of its format as text. The ids are
    given out by the store, in order, and never run out. -/
structure StoredProfile where
  id : Nat
  name : String
  gameClass : String
  variant : String
  tableSize : String
deriving DecidableEq, Inhabited

namespace StoredProfile

/-- A profile as it is stored under an id. -/
def ofProfile (id : Nat) (p : Profile) : StoredProfile :=
  ⟨id, p.name, p.format.part .gameClass, p.format.part .variant, p.format.part .tableSize⟩

/-- Is this the profile of the given name? The table compares names in its own way. -/
def isNamed (p : StoredProfile) (name : String) : Bool :=
  Text.sameKey p.name name

/-- The profile, if its format is understood. -/
def profile (p : StoredProfile) : Except Decode.DecodeError Profile :=
  Profile.decode (.obj
    [("game_class", .str p.gameClass), ("game_variant", .str p.variant), ("name", .str p.name),
     ("table_size", .str p.tableSize)])

/-- The profile with the format of another one. -/
def withFormat (p : StoredProfile) (q : Profile) : StoredProfile :=
  ofProfile p.id ⟨p.name, q.format⟩

end StoredProfile

/-- A stack as it is stored: minus zero is stored as zero, and what is no number is
    not stored. -/
def storedStack (x : Float) : Option Float :=
  if x.isNaN then none else if x == 0.0 then some 0.0 else some x

/-- A rule as it is stored. -/
def TagRule.stored (r : TagRule) : TagRule :=
  { r with minStack := r.minStack.bind storedStack, maxStack := r.maxStack.bind storedStack }

/-- The rows of the tables, each in the order of the keys. The times at which documents, tags,
    their rules and spots were written, which nothing reads back, are left out of the rows. -/
structure Contents where
  documents : List Document := []
  tags : List Tag := []
  tagDocuments : List TagDocument := []
  tagRules : List TagRule := []
  spots : List Spot := []
  spotRules : List StoredCondition := []
  spotDocuments : List SpotDocument := []
  profiles : List StoredProfile := []
  /-- Links from spots to the ids of profiles. -/
  spotProfiles : List (LinkKey Nat) := []
deriving Inhabited

/-- A store: the tables that there are and their rows. -/
structure Store where
  tables : List Table := []
  contents : Contents := {}
deriving Inhabited

/-! ## Errors -/

/-- What a store is doing. -/
inductive StoreAction where
  | openFile (path : String)
  | createTables
  | storeProfile (name : String)
  | insertDocument (id : Int64)
  | insertTag (id : Int64)
  | linkTagDocument
  | insertTagRule (id : Int64)
  | insertSpot (id : Int64)
  | insertSpotRule (id : Int64)
  | linkSpotDocument
  | linkSpotProfile
  | read (t : Table)
deriving DecidableEq, Inhabited

namespace StoreAction

/-- What a table holds, in words. -/
def contentsOf : Table → String
  | .documents => "documents"
  | .tags => "tags"
  | .tagDocuments => "tag documents"
  | .tagRules => "tag rules"
  | .spots => "spots"
  | .spotRules => "spot rules"
  | .spotDocuments => "spot documents"
  | .profiles => "game profiles"
  | .spotProfiles => "spot profiles"

/-- The failure of an action in words. -/
def failure : StoreAction → String
  | openFile path => s!"Failed to open {path}"
  | createTables => "Failed to create schema"
  | storeProfile name => s!"Failed to store profile '{name}'"
  | insertDocument id => s!"Failed to insert document {id}"
  | insertTag id => s!"Failed to insert tag {id}"
  | linkTagDocument => "Failed to link tag document"
  | insertTagRule id => s!"Failed to insert tag rule {id}"
  | insertSpot id => s!"Failed to insert spot {id}"
  | insertSpotRule id => s!"Failed to insert spot rule {id}"
  | linkSpotDocument => "Failed to link spot document"
  | linkSpotProfile => "Failed to link spot profile"
  | read t => s!"Failed to read {contentsOf t}"

end StoreAction

/-- Why an action of a store fails. -/
inductive StoreFault where
  /-- Another row of the table has the same name. -/
  | nameTaken (t : Table)
  /-- A row that is referred to is missing. -/
  | missingRow
  | missingTable (t : Table)
  /-- The file is there and holds something else. -/
  | noLibrary
  /-- There can be no file at this path. -/
  | cannotOpen (path : String)
deriving DecidableEq, Inhabited

/-- The fault in words. -/
def StoreFault.message : StoreFault → String
  | nameTaken t => s!"UNIQUE constraint failed: {t.name}.name"
  | missingRow => "FOREIGN KEY constraint failed"
  | missingTable t => s!"no such table: {t.name}"
  | noLibrary => "file is not a database"
  | cannotOpen path => s!"unable to open database file: {path}"

/-- What goes wrong with a store. -/
inductive StoreError where
  | failed (action : StoreAction) (fault : StoreFault)
  /-- A spot is linked to a profile that nobody knows. -/
  | unknownProfile (name : String) (spot : Int64)
  /-- The format of a stored profile is not understood. -/
  | badProfile (e : Decode.DecodeError)
  /-- There is no file at this path. -/
  | missingFile (path : String)
deriving DecidableEq, Inhabited

namespace StoreError

/-- The error in words. -/
def message : StoreError → String
  | failed action fault => s!"{action.failure}: {fault.message}"
  | unknownProfile name spot => s!"Unknown game profile '{name}' for spot {spot}"
  | badProfile e => s!"Invalid game profile: {e.message}"
  | missingFile path => s!"{path} does not exist (run `librarian init` first)"

/-- The library of a store that fails is not to be had. -/
def libraryError (e : StoreError) : LibraryError := ⟨e.message⟩

end StoreError

end HandStudy
