import HandStudy.Library.Snapshot
import HandStudy.Proofs.Json.Latitude
import HandStudy.Proofs.Store.Load

/-!
# What is written comes back

Each kind of entry is written as an object with keys of its own, and there is latitude in how it
may be given instead: with more keys, and without those that have their defaults
(`Snapshot.latitude`, `Hand.latitude`). A snapshot and a hand come back from whatever there is
latitude for, if their floats are finite (`snapshots_and_hands_come_back`).
-/

namespace HandStudy

namespace Decode

variable {α : Type}

/-- What is written as this value is read as `a`: as it is written, with the keys of its objects
    in order, and in every way there is latitude for. -/
structure ComesBack (L : Latitude) (read : Decoder α) (v : Json) (a : α) : Prop where
  written : read v = .ok a
  canonical : read v.canonical = .ok a
  given : ∀ w, L v w → read w = .ok a

theorem comesBack {L : Latitude} {read : Decoder α} {v : Json} {a : α}
    (h : ∀ g, Json.Rearranges g → ReadsBack g L read v a) : ComesBack L read v a := by
  have hwritten := h _ Json.rearranges_id
  have hcanonical := h _ Json.rearranges_canonical
  exact ⟨hwritten.read hwritten.self, hcanonical.read hcanonical.self, fun _ => hwritten.read⟩

end Decode

open Decode

variable {g : Json → Json}

/-! ## Documents -/

/-- How a document may be given. -/
def Document.latitude : Latitude :=
  .object [.needed "id" .same, .needed "title" .same, .needed "path" .same]

theorem Document.readsBack (hg : Json.Rearranges g) (d : Document) :
    ReadsBack g latitude record.decode d.toJson d := by
  have hparts : List.Forall₂ (Restores g record.blank) record.members _ :=
    .cons (.needed (readsBack_int64 hg d.id)) <|
    .cons (.needed (readsBack_text hg d.title)) <|
    .cons (.needed (readsBack_text hg d.path)) .nil
  exact readsBack_object hg hparts ⟨by simp, by simp, fun _ => rfl⟩ (by decide)

/-! ## Tags -/

/-- How a tag may be given. -/
def Tag.latitude : Latitude :=
  .object [.needed "id" .same, .needed "name" .same, .optional "description" .same]

theorem Tag.readsBack (hg : Json.Rearranges g) (t : Tag) :
    ReadsBack g latitude record.decode t.toJson t := by
  have hparts : List.Forall₂ (Restores g record.blank) record.members _ :=
    .cons (.needed (readsBack_int64 hg t.id)) <|
    .cons (.needed (readsBack_text hg t.name)) <|
    .cons (.optionalText hg t.description rfl) .nil
  exact readsBack_object hg hparts ⟨by simp, by simp, fun _ => rfl⟩ (by decide)

/-- How a link from a tag to a document may be given. -/
def TagDocument.latitude : Latitude :=
  .object [.needed "tag_id" .same, .needed "document_id" .same]

theorem TagDocument.readsBack (hg : Json.Rearranges g) (l : TagDocument) :
    ReadsBack g latitude record.decode l.toJson l := by
  have hparts : List.Forall₂ (Restores g record.blank) record.members _ :=
    .cons (.needed (readsBack_int64 hg l.tag)) <|
    .cons (.needed (readsBack_int64 hg l.document)) .nil
  exact readsBack_object hg hparts ⟨by simp, by simp, fun _ => rfl⟩ (by decide)

namespace TagRule

/-- How a rule may be given. -/
def latitude : Latitude :=
  .object
    [.needed "id" .same,
     .needed "tag_id" .same,
     .optional "description" .same,
     .optional "preflop_pattern" .same,
     .optional "flop_pattern" .same,
     .optional "turn_pattern" .same,
     .optional "river_pattern" .same,
     .optional "board_texture" .same,
     .optional "min_effective_stack_bb" .same,
     .optional "max_effective_stack_bb" .same,
     .optional "game_class_pattern" .same,
     .optional "game_variant_pattern" .same,
     .optional "table_size_pattern" .same,
     .optional "game_type_pattern" .same,
     .optional "num_players" .same]

/-- The bounds of the rule are finite. -/
def Finite (r : TagRule) : Prop :=
  ∀ x, r.minStack = some x ∨ r.maxStack = some x → x.isFinite

theorem readsBack (hg : Json.Rearranges g) {r : TagRule} (h : r.Finite) :
    ReadsBack g latitude decode r.toJson r := by
  have hparts : List.Forall₂ (Restores g record.blank) record.members _ :=
    .cons (.needed (readsBack_int64 hg r.id)) <|
    .cons (.needed (readsBack_int64 hg r.tag)) <|
    .cons (.optionalText hg r.description rfl) <|
    .cons (.optionalText hg r.preflop rfl) <|
    .cons (.optionalText hg r.flop rfl) <|
    .cons (.optionalText hg r.turn rfl) <|
    .cons (.optionalText hg r.river rfl) <|
    .cons (.optionalText hg r.texture rfl) <|
    .cons (.optional hg nofun (fun x hx => readsBack_float hg (h x (.inl hx))) rfl) <|
    .cons (.optional hg nofun (fun x hx => readsBack_float hg (h x (.inr hx))) rfl) <|
    .cons (.optionalText hg r.gameClass rfl) <|
    .cons (.optionalText hg r.variant rfl) <|
    .cons (.optionalText hg r.tableSize rfl) <|
    .cons (.optionalText hg r.gameType rfl) <|
    .cons (.optional hg nofun (fun n (_ : r.players = some n) => readsBack_word32 hg n) rfl) .nil
  exact readsBack_object hg hparts ⟨by simp, by simp, fun _ => rfl⟩ (by decide)

end TagRule

/-! ## Spots -/

/-- How a spot may be given. -/
def Spot.latitude : Latitude :=
  .object [.needed "id" .same, .needed "name" .same, .optional "description" .same]

theorem Spot.readsBack (hg : Json.Rearranges g) (s : Spot) :
    ReadsBack g latitude record.decode s.toJson s := by
  have hparts : List.Forall₂ (Restores g record.blank) record.members _ :=
    .cons (.needed (readsBack_int64 hg s.id)) <|
    .cons (.needed (readsBack_text hg s.name)) <|
    .cons (.optionalText hg s.description rfl) .nil
  exact readsBack_object hg hparts ⟨by simp, by simp, fun _ => rfl⟩ (by decide)

/-- How a condition may be given. Keys of its parameters may stand in any order, but there are no
    more and no less of them. -/
def SpotRule.latitude : Latitude :=
  .object
    [.needed "id" .same,
     .needed "spot_id" .same,
     .needed "condition_type" .same,
     .defaulted "condition_params" .alike .null]

theorem SpotRule.readsBack (hg : Json.Rearranges g) {r : SpotRule} (h : r.parameters.IsCanonical) :
    ReadsBack g latitude record.decode r.toJson r := by
  have hparts : List.Forall₂ (Restores g record.blank) record.members _ :=
    .cons (.needed (readsBack_int64 hg r.id)) <|
    .cons (.needed (readsBack_int64 hg r.spot)) <|
    .cons (.needed (readsBack_text hg r.kind)) <|
    .cons (.defaulted (readsBack_anything hg h) fun hnull => hnull ▸ rfl) .nil
  exact readsBack_object hg hparts ⟨by simp, by simp, fun _ => rfl⟩ (by decide)

/-- The parameters of a condition that is decoded are canonical. -/
theorem SpotRule.isCanonical_of_decode {v : Json} {r : SpotRule} (h : record.decode v = .ok r) :
    r.parameters.IsCanonical := by
  refine Record.decode_induction (Q := fun _ => True) (P := fun r => r.parameters.IsCanonical)
    (fun m hm => ?_) ⟨rfl, rfl⟩ (fun _ _ _ _ => trivial) (fun _ _ _ _ => trivial) h
  simp only [record, List.mem_cons, List.not_mem_nil, or_false] at hm
  rcases hm with rfl | rfl | rfl | rfl
  all_goals
    try exact Member.keeps_of_put (fun _ _ => rfl) fun _ _ _ _ _ h => h
  refine Member.keeps_of_put (fun _ _ => rfl) fun v parameters r _ hread _ => ?_
  rw [anything] at hread
  split at hread
  · rename_i hwhole
    exact Except.ok.inj hread ▸ .of_isWhole hwhole
  · cases hread

/-- How a link from a spot to a document may be given. -/
def SpotDocument.latitude : Latitude :=
  .object
    [.needed "spot_id" .same,
     .needed "document_id" .same,
     .defaulted "is_default" .same (.bool false)]

theorem SpotDocument.readsBack (hg : Json.Rearranges g) (l : SpotDocument) :
    ReadsBack g latitude record.decode l.toJson l := by
  have hparts : List.Forall₂ (Restores g record.blank) record.members _ :=
    .cons (.needed (readsBack_int64 hg l.spot)) <|
    .cons (.needed (readsBack_int64 hg l.document)) <|
    .cons (.defaulted (readsBack_boolean hg l.isDefault) fun h => Json.bool.inj h ▸ rfl) .nil
  exact readsBack_object hg hparts ⟨by simp, by simp, fun _ => rfl⟩ (by decide)

/-- How a link from a spot to a profile may be given. -/
def SpotProfile.latitude : Latitude :=
  .object [.needed "spot_id" .same, .needed "profile_name" .same]

theorem SpotProfile.readsBack (hg : Json.Rearranges g) (l : SpotProfile) :
    ReadsBack g latitude record.decode l.toJson l := by
  have hparts : List.Forall₂ (Restores g record.blank) record.members _ :=
    .cons (.needed (readsBack_int64 hg l.spot)) <|
    .cons (.needed (readsBack_text hg l.profile)) .nil
  exact readsBack_object hg hparts ⟨by simp, by simp, fun _ => rfl⟩ (by decide)

/-! ## Formats and profiles -/

theorem GameClass.readsBack (hg : Json.Rearranges g) (c : GameClass) :
    ReadsBack g .same decode (.str c.name) c :=
  readsBack_choice hg name_injective (by cases c <;> simp)

theorem GameVariant.readsBack (hg : Json.Rearranges g) (v : GameVariant) :
    ReadsBack g .same decode (.str v.name) v :=
  readsBack_choice hg name_injective (by cases v <;> simp)

theorem TableSize.readsBack (hg : Json.Rearranges g) (t : TableSize) :
    ReadsBack g .same decode (.str t.name) t :=
  readsBack_choice hg name_injective (by cases t <;> simp [all])

namespace GameFormat

/-- The keys of a format. -/
def keys : List Latitude.Key :=
  Part.all.map fun p => .needed p.name .same

/-- The parts of a format that are written. -/
def parts (f : GameFormat) : List (Decode.Part GameFormat) :=
  [⟨.needed "game_class" .same, .str f.gameClass.name, ({ · with gameClass := f.gameClass })⟩,
   ⟨.needed "game_variant" .same, .str f.variant.name, ({ · with variant := f.variant })⟩,
   ⟨.needed "table_size" .same, .str f.tableSize.name, ({ · with tableSize := f.tableSize })⟩]

theorem restores_parts (hg : Json.Rearranges g) (f : GameFormat) :
    List.Forall₂ (Restores g record.blank) record.members f.parts :=
  .cons (.needed (f.gameClass.readsBack hg)) <|
  .cons (.needed (f.variant.readsBack hg)) <|
  .cons (.needed (f.tableSize.readsBack hg)) .nil

theorem copies_parts (f : GameFormat) : Copies (f.parts.map Part.copy) f :=
  ⟨by simp [parts], by simp [parts], fun _ => rfl⟩

theorem readsBack (hg : Json.Rearranges g) (f : GameFormat) :
    ReadsBack g (.object keys) record.decode f.toJson f :=
  readsBack_object hg (f.restores_parts hg) f.copies_parts (by decide)

end GameFormat

namespace Profile

/-- How a profile may be given: as an object with its name and the keys of its format, everything
    in which has a value. -/
def latitude : Latitude :=
  .whole (.object (.needed "name" .same :: GameFormat.keys))

theorem readsBack (hg : Json.Rearranges g) (p : Profile) :
    ReadsBack g latitude decode p.toJson p := by
  have hname : List.Forall₂ (Restores g nameRecord.blank) nameRecord.members
      [⟨.needed "name" .same, .str p.name, fun _ => p.name⟩] :=
    .cons (.needed (readsBack_text hg p.name)) .nil
  have hformat := p.format.restores_parts hg
  constructor
  · refine ⟨hg.isWhole _ rfl, object_self hg
      ((.needed "name" .same, .str p.name) :: p.format.parts.map Part.field) ?_ ?_⟩
    · exact List.forall_mem_cons.2
        ⟨hg.str p.name, List.forall_mem_map.2 fun q hq => self_of_mem hformat hq⟩
    · simp [GameFormat.parts, Part.field, Latitude.Key.needed]
  -- The name and the format are decoded one after the other, each from the whole object.
  · rintro w ⟨hwhole, written, given, hwritten, rfl, hfields⟩
    obtain rfl := Json.obj.inj hwritten
    have hreadName : nameRecord.decodeFields given = .ok p.name :=
      Record.decodeFields_of_parts hname ⟨by simp, by simp, fun _ => rfl⟩ (by decide)
        (by simp) (by simp [Latitude.Key.needed]) hfields
    have hreadFormat : GameFormat.record.decodeFields given = .ok p.format :=
      Record.decodeFields_of_parts hformat p.format.copies_parts (by decide)
        (by simp [GameFormat.parts, GameFormat.keys, GameFormat.Part.all, GameFormat.Part.name])
        (by simp [GameFormat.parts, GameFormat.fields, GameFormat.Part.all, GameFormat.Part.name,
          GameFormat.part, Latitude.Key.needed]) hfields
    have hfieldsWhole : Json.fieldsWhole given := hwhole
    simp only [decode, hfieldsWhole, hreadName, hreadFormat]
    rfl

end Profile

/-! ## Snapshots -/

namespace Snapshot

/-- How a snapshot may be given. -/
def latitude : Latitude :=
  .object
    [.defaulted "documents" (.items Document.latitude) (.arr []),
     .defaulted "tags" (.items Tag.latitude) (.arr []),
     .defaulted "tag_rules" (.items TagRule.latitude) (.arr []),
     .defaulted "tag_documents" (.items TagDocument.latitude) (.arr []),
     .defaulted "spots" (.items Spot.latitude) (.arr []),
     .defaulted "spot_rules" (.items SpotRule.latitude) (.arr []),
     .defaulted "spot_documents" (.items SpotDocument.latitude) (.arr []),
     .defaulted "profiles" (.items Profile.latitude) (.arr []),
     .defaulted "spot_profiles" (.items SpotProfile.latitude) (.arr [])]

/-- The floats of the snapshot are finite, and the parameters of its conditions are canonical, as
    they are in every snapshot that is decoded. -/
structure Writable (s : Snapshot) : Prop where
  bounds : ∀ r ∈ s.tagRules, r.Finite
  parameters : ∀ r ∈ s.spotRules, r.parameters.IsCanonical

/-- The parameters of conditions that are decoded are canonical. -/
theorem parameters_of_decode {v : Json} {s : Snapshot} (h : decode v = .ok s) :
    ∀ r ∈ s.spotRules, r.parameters.IsCanonical := by
  refine Record.decode_induction (r := record) (Q := fun _ => True)
    (P := fun s => ∀ r ∈ s.spotRules, r.parameters.IsCanonical) (fun m hm => ?_)
    (List.forall_mem_nil _) (fun _ _ _ _ => trivial) (fun _ _ _ _ => trivial) h
  simp only [record, List.mem_cons, List.not_mem_nil, or_false] at hm
  rcases hm with rfl | rfl | rfl | rfl | rfl | rfl | rfl | rfl | rfl
  all_goals
    try exact Member.keeps_of_put (fun _ _ => rfl) fun _ _ _ _ _ h => h
  refine Member.keeps_of_put (fun _ _ => rfl) fun v rules s _ hrules _ r hr => ?_
  cases v with
  | arr items =>
    obtain ⟨i, -, hdecode⟩ := exists_of_mem_mapM hrules hr
    exact SpotRule.isCanonical_of_decode hdecode
  | null | bool | int | float | str | obj | void => cases hrules

theorem readsBack (hg : Json.Rearranges g) {s : Snapshot} (h : s.Writable) :
    ReadsBack g latitude decode s.toJson s := by
  have hparts : List.Forall₂ (Restores g record.blank) record.members _ :=
    .cons (.listed hg (fun d (_ : d ∈ s.documents) => d.readsBack hg) rfl) <|
    .cons (.listed hg (fun t (_ : t ∈ s.tags) => t.readsBack hg) rfl) <|
    .cons (.listed hg (fun r hr => TagRule.readsBack hg (h.bounds r hr)) rfl) <|
    .cons (.listed hg (fun l (_ : l ∈ s.tagDocuments) => l.readsBack hg) rfl) <|
    .cons (.listed hg (fun p (_ : p ∈ s.spots) => p.readsBack hg) rfl) <|
    .cons (.listed hg (fun r hr => SpotRule.readsBack hg (h.parameters r hr)) rfl) <|
    .cons (.listed hg (fun l (_ : l ∈ s.spotDocuments) => l.readsBack hg) rfl) <|
    .cons (.listed hg (fun p (_ : p ∈ s.profiles) => p.readsBack hg) rfl) <|
    .cons (.listed hg (fun l (_ : l ∈ s.spotProfiles) => l.readsBack hg) rfl) .nil
  exact readsBack_object hg hparts ⟨by simp, by simp, fun _ => rfl⟩ (by decide)

end Snapshot

/-! ## Hands -/

namespace Hand

/-- How a hand may be given. -/
def latitude : Latitude :=
  .object
    [.optional "hand_id" .same,
     .defaulted "preflop" .same (.str ""),
     .defaulted "flop" .same (.str ""),
     .defaulted "turn" .same (.str ""),
     .defaulted "river" .same (.str ""),
     .optional "flop_cards" (.items .same),
     .optional "raw_text" .same,
     .optional "effective_stack_bb" .same,
     .optional "format" (.object GameFormat.keys),
     .optional "game_type" .same,
     .optional "number_of_players" .same]

/-- The stack of the hand is finite. -/
def Finite (h : Hand) : Prop :=
  ∀ x, h.stack = some x → x.isFinite

theorem readsBack (hg : Json.Rearranges g) {h : Hand} (hfinite : h.Finite) :
    ReadsBack g latitude decode h.toJson h := by
  have hcards (cards : List String) (_ : h.flopCards = some cards) :
      ReadsBack g (.items .same) (list Decode.text) (.ofList .str cards) cards :=
    readsBack_items hg fun s _ => readsBack_text hg s
  have hparts : List.Forall₂ (Restores g record.blank) record.members _ :=
    .cons (.optionalText hg h.label rfl) <|
    .cons (.defaulted (readsBack_text hg h.preflop) fun hs => Json.str.inj hs ▸ rfl) <|
    .cons (.defaulted (readsBack_text hg h.flop) fun hs => Json.str.inj hs ▸ rfl) <|
    .cons (.defaulted (readsBack_text hg h.turn) fun hs => Json.str.inj hs ▸ rfl) <|
    .cons (.defaulted (readsBack_text hg h.river) fun hs => Json.str.inj hs ▸ rfl) <|
    .cons (.optional hg nofun hcards rfl) <|
    .cons (.optionalText hg h.history rfl) <|
    .cons (.optional hg nofun (fun x hx => readsBack_float hg (hfinite x hx)) rfl) <|
    .cons (.optional hg nofun (fun f (_ : h.format = some f) => f.readsBack hg) rfl) <|
    .cons (.optionalText hg h.gameType rfl) <|
    .cons (.optional hg nofun (fun n (_ : h.players = some n) => readsBack_word32 hg n) rfl) .nil
  exact readsBack_object hg hparts ⟨by simp, by simp, fun _ => rfl⟩ (by decide)

end Hand

/-! ## The whole -/

/-- Snapshots and hands come back when they are written, also if keys that nobody knows are added
    to their objects or keys are left out that have their defaults. The parameters of conditions
    that are decoded are canonical. -/
theorem snapshots_and_hands_come_back :
    (∀ s : Snapshot, s.Writable → ComesBack Snapshot.latitude Snapshot.decode s.toJson s) ∧
    (∀ h : Hand, h.Finite → ComesBack Hand.latitude Hand.decode h.toJson h) ∧
    ∀ v s, Snapshot.decode v = .ok s → ∀ r ∈ s.spotRules, r.parameters.IsCanonical := by
  refine ⟨fun s hs => ?_, fun h hh => ?_, fun v s hs => ?_⟩
  · exact comesBack fun g hg => Snapshot.readsBack hg hs
  · exact comesBack fun g hg => Hand.readsBack hg hh
  · exact Snapshot.parameters_of_decode hs

/-! A snapshot in which much has its default, and how it may be given without that, with a key
more in each object. -/

def TagRule.sparse : TagRule := { id := 1, tag := 2, minStack := some 40.0, players := some 6 }

def TagRule.sparseGiven : Json :=
  .obj
    [("num_players", .int 6), ("note", .str "draft"), ("id", .int 1), ("tag_id", .int 2),
     ("min_effective_stack_bb", .float 40.0)]

theorem TagRule.latitude_sparseGiven : latitude sparse.toJson sparseGiven := by
  refine ⟨_, _, rfl, rfl, by decide, ?_⟩
  have hfinite : (40.0 : Float).isFinite := by decide +kernel
  simp [sparse, Latitude.Key.needed, Latitude.Key.optional, Latitude.Key.defaulted,
    Latitude.orNull, Latitude.same, Json.ofOption, Json.ofFloat, hfinite]

def SpotRule.sparse : SpotRule where
  id := 3
  spot := 4
  kind := "sequence"
  parameters := .obj [("pattern", .str "XB"), ("street", .str "flop")]

def SpotRule.sparseGiven : Json :=
  .obj
    [("condition_params", .obj [("street", .str "flop"), ("pattern", .str "XB")]),
     ("id", .int 3), ("spot_id", .int 4), ("active", .bool true),
     ("condition_type", .str "sequence")]

theorem SpotRule.latitude_sparseGiven : latitude sparse.toJson sparseGiven := by
  refine ⟨_, _, rfl, rfl, by decide, ?_⟩
  have hparameters : Latitude.alike sparse.parameters
      (.obj [("street", .str "flop"), ("pattern", .str "XB")]) := ⟨rfl, rfl⟩
  simpa [sparse, Latitude.Key.needed, Latitude.Key.defaulted, Latitude.same] using hparameters

def Profile.sparse : Profile := ⟨"Zoom", .cash, .zoom, .six⟩

def Profile.sparseGiven : Json :=
  .obj
    [("table_size", .str "6-max"), ("name", .str "Zoom"), ("rake", .int 5),
     ("game_variant", .str "zoom"), ("game_class", .str "cash")]

theorem Profile.latitude_sparseGiven : latitude sparse.toJson sparseGiven := by
  refine ⟨rfl, _, _, rfl, rfl, by decide, ?_⟩
  simp [sparse, Latitude.Key.needed, Latitude.same, GameFormat.keys, GameFormat.Part.all,
    GameFormat.Part.name, GameFormat.fields, GameFormat.part, GameClass.name, GameVariant.name,
    TableSize.name]

def Snapshot.sparse : Snapshot where
  tagRules := [.sparse]
  spotRules := [.sparse]
  profiles := [.sparse]

def Snapshot.sparseGiven : Json :=
  .obj
    [("version", .int 2),
     ("profiles", .arr [Profile.sparseGiven]),
     ("spot_rules", .arr [SpotRule.sparseGiven]),
     ("tag_rules", .arr [TagRule.sparseGiven])]

theorem Snapshot.latitude_sparseGiven : latitude sparse.toJson sparseGiven := by
  refine ⟨_, _, rfl, rfl, by decide, ?_⟩
  simp [sparse, Latitude.Key.defaulted, Latitude.items, Json.ofList, TagRule.latitude_sparseGiven,
    SpotRule.latitude_sparseGiven, Profile.latitude_sparseGiven]

theorem Snapshot.writable_sparse : sparse.Writable where
  bounds := by
    refine List.forall_mem_singleton.2 fun x hx => ?_
    obtain rfl : 40.0 = x := by simpa [TagRule.sparse] using hx
    decide +kernel
  parameters := List.forall_mem_singleton.2 ⟨rfl, rfl⟩

theorem snapshots_and_hands_come_back_sparse :
    Snapshot.sparse.Writable ∧ Snapshot.latitude Snapshot.sparse.toJson Snapshot.sparseGiven ∧
    Snapshot.decode Snapshot.sparseGiven = .ok Snapshot.sparse ∧
    Hand.Finite { river := "XX" } ∧
    Hand.decode (Hand.toJson { river := "XX" }).canonical = .ok { river := "XX" } := by
  obtain ⟨hsnapshots, hhands, -⟩ := snapshots_and_hands_come_back
  have hsnapshot := hsnapshots .sparse Snapshot.writable_sparse
  have hfinite : Hand.Finite { river := "XX" } := fun x (hx : none = some x) => nomatch hx
  exact ⟨Snapshot.writable_sparse, Snapshot.latitude_sparseGiven,
    hsnapshot.given _ Snapshot.latitude_sparseGiven, hfinite, (hhands _ hfinite).canonical⟩

end HandStudy
