import HandStudy.Proofs.Decode
import HandStudy.Store.Import
import HandStudy.Store.Load

/-!
# What is loaded

The library of tags is to be had if its tables are there (`Store.loadTags_eq_ok_iff`), that
of spots if moreover every stored profile is understood (`Store.loadSpots_eq_ok_iff`). A
row is understood as the profile that is stored as this row, and as no other
(`StoredProfile.profile_eq_ok_iff`).
-/

namespace HandStudy

/-! ## Stored profiles -/

theorem GameClass.name_injective : Function.Injective GameClass.name := by
  intro a b
  cases a <;> cases b <;> simp [name]

theorem GameVariant.name_injective : Function.Injective GameVariant.name := by
  intro a b
  cases a <;> cases b <;> simp [name]

theorem TableSize.name_injective : Function.Injective TableSize.name := by
  intro a b
  cases a <;> cases b <;> simp [name]

theorem GameClass.decode_str_eq_ok_iff {s : String} {c : GameClass} :
    decode (.str s) = .ok c ↔ c.name = s := by
  rw [decode, Decode.choice_str_eq_ok_iff name_injective]
  cases c <;> simp

theorem GameVariant.decode_str_eq_ok_iff {s : String} {v : GameVariant} :
    decode (.str s) = .ok v ↔ v.name = s := by
  rw [decode, Decode.choice_str_eq_ok_iff name_injective]
  cases v <;> simp

theorem TableSize.decode_str_eq_ok_iff {s : String} {t : TableSize} :
    decode (.str s) = .ok t ↔ t.name = s := by
  rw [decode, Decode.choice_str_eq_ok_iff name_injective]
  cases t <;> simp [all]

namespace StoredProfile

open Decode in
/-- The parts of a format are decoded one after the other, whatever the name is. -/
theorem profile_eq (q : StoredProfile) :
    q.profile = do
      let gameClass ← GameClass.decode (.str q.gameClass)
      let variant ← GameVariant.decode (.str q.variant)
      let tableSize ← TableSize.decode (.str q.tableSize)
      return ⟨q.name, gameClass, variant, tableSize⟩ := by
  obtain ⟨id, name, c, v, t⟩ := q
  have hname : Profile.nameRecord.decodeFields
      [("game_class", .str c), ("game_variant", .str v), ("name", .str name),
        ("table_size", .str t)] = .ok name := by
    simp [Record.decodeFields, Record.readFields, Profile.nameRecord, needed, text,
      Record.firstMissing?, Except.map, bind, Except.bind, pure, Except.pure]
  simp only [profile, Profile.decode, hname]
  simp only [Record.decodeFields, Record.readFields, GameFormat.record, needed, List.find?_cons,
    String.reduceEq, decide_true, decide_false]
  cases GameClass.decode (.str c) with
  | error e => rfl
  | ok c =>
    cases GameVariant.decode (.str v) with
    | error e => rfl
    | ok v => cases TableSize.decode (.str t) <;> rfl

/-- A row is understood as the profile that is stored as this row. -/
theorem profile_eq_ok_iff {q : StoredProfile} {p : Profile} :
    q.profile = .ok p ↔ q = ofProfile q.id p := by
  obtain ⟨id, name, c, v, t⟩ := q
  obtain ⟨name', c', v', t'⟩ := p
  rw [profile_eq]
  simp only [ofProfile, GameFormat.part, mk.injEq, true_and]
  rw [eq_comm (a := c), eq_comm (a := v), eq_comm (a := t), ← GameClass.decode_str_eq_ok_iff,
    ← GameVariant.decode_str_eq_ok_iff, ← TableSize.decode_str_eq_ok_iff]
  cases GameClass.decode (.str c) <;> cases GameVariant.decode (.str v) <;>
    cases TableSize.decode (.str t) <;> simp [bind, Except.bind, pure, Except.pure]

/-- The rows are how the profiles are stored, one for one. -/
def Hold (rows : List StoredProfile) (profiles : List Profile) : Prop :=
  List.Forall₂ (fun q p => q = ofProfile q.id p) rows profiles

variable {rows : List StoredProfile} {profiles : List Profile}

theorem exists_hold_iff :
    (∃ profiles, Hold rows profiles) ↔ ∀ q ∈ rows, ∃ p, q = ofProfile q.id p := by
  induction rows with
  | nil => simp [Hold]
  | cons q rows ih => simp [Hold, List.forall₂_cons_left_iff, ← ih]

theorem Hold.map_name (h : Hold rows profiles) :
    rows.map (·.name) = profiles.map (·.name) := by
  induction h with
  | nil => rfl
  | cons hq _ ih =>
    rw [List.map_cons, List.map_cons, ih, hq]
    rfl

theorem Hold.exists_profile (h : Hold rows profiles) {q : StoredProfile} (hq : q ∈ rows) :
    ∃ p ∈ profiles, q = ofProfile q.id p := by
  induction h with
  | nil => cases hq
  | @cons r p rows profiles hr _ ih =>
    rcases List.mem_cons.1 hq with rfl | hq
    · exact ⟨p, List.mem_cons_self, hr⟩
    · obtain ⟨p', hp', hq⟩ := ih hq
      exact ⟨p', List.mem_cons_of_mem _ hp', hq⟩

theorem Hold.exists_row (h : Hold rows profiles) {p : Profile} (hp : p ∈ profiles) :
    ∃ q ∈ rows, q = ofProfile q.id p := by
  induction h with
  | nil => cases hp
  | @cons q r rows profiles hq _ ih =>
    rcases List.mem_cons.1 hp with rfl | hp
    · exact ⟨q, List.mem_cons_self, hq⟩
    · obtain ⟨q', hq', h⟩ := ih hp
      exact ⟨q', List.mem_cons_of_mem _ hq', h⟩

/-- Under a name there is the row of the profile that is there. -/
theorem Hold.find? (h : Hold rows profiles) {n : String} {p : Profile} :
    profiles.find? (·.isNamed n) = some p ↔
      ∃ q, rows.find? (Text.sameLetters ·.name n) = some q ∧ q = ofProfile q.id p := by
  induction h with
  | nil => simp
  | @cons q p' rows profiles hq _ ih =>
    have hnamed : Text.sameLetters q.name n = p'.isNamed n := by
      rw [hq]
      rfl
    rw [List.find?_cons, List.find?_cons, hnamed]
    cases p'.isNamed n with
    | true => simp [← profile_eq_ok_iff, profile_eq_ok_iff.2 hq]
    | false => exact ih

end StoredProfile

namespace Store

variable {s : Store}

/-- The library of tags as the tables have it. -/
def tagLibrary (s : Store) : TagLibrary where
  tags := s.contents.tags
  rules := s.contents.tagRules
  documents := s.contents.documents
  links := s.contents.tagDocuments

/-- The library of spots as the tables have it, with the given profiles. -/
def spotLibrary (s : Store) (profiles : List Profile) : SpotLibrary where
  spots := s.contents.spots
  rules := s.contents.spotRules.map StoredCondition.rule
  documents := s.contents.documents
  links := s.contents.spotDocuments
  profiles := profiles
  profileLinks := profileLinks s.contents

/-- The tables that the library of tags is loaded from. -/
def tagTables : List Table := [.tags, .tagRules, .tagDocuments, .documents]

/-- The tables that the library of spots is loaded from. -/
def spotTables : List Table :=
  [.spots, .spotRules, .spotDocuments, .spotProfiles, .profiles, .documents]

theorem rowsFor_eq_ok_iff {α : Type} {purpose t : Table} {rows : Contents → List α} {l : List α} :
    s.rowsFor purpose t rows = .ok l ↔ t ∈ s.tables ∧ rows s.contents = l := by
  rw [rowsFor]
  split <;> simp_all

/-- The library of tags is loaded if all its tables are there. -/
theorem loadTags_eq_ok_iff {l : TagLibrary} :
    s.loadTags = .ok l ↔ tagTables ⊆ s.tables ∧ s.tagLibrary = l := by
  simp only [loadTags, rows, Decode.bind_eq_ok_iff, rowsFor_eq_ok_iff]
  simp [tagTables, tagLibrary, pure, Except.pure, and_assoc]

/-- The library of spots is loaded if all its tables are there and every stored profile
    is understood. -/
theorem loadSpots_eq_ok_iff {l : SpotLibrary} :
    s.loadSpots = .ok l ↔ spotTables ⊆ s.tables ∧
      ∃ profiles, StoredProfile.Hold s.contents.profiles profiles ∧ s.spotLibrary profiles = l := by
  have hprofile (q : StoredProfile) (p : Profile) :
      q.profile.mapError StoreError.badProfile = .ok p ↔ q = .ofProfile q.id p := by
    rw [← StoredProfile.profile_eq_ok_iff]
    cases q.profile <;> simp [Except.mapError]
  simp only [loadSpots, rows, Decode.bind_eq_ok_iff, rowsFor_eq_ok_iff, Decode.mapM_eq_ok_iff,
    hprofile]
  constructor
  · rintro ⟨_, ⟨h₁, rfl⟩, _, ⟨h₂, rfl⟩, _, ⟨h₃, rfl⟩, _, ⟨h₄, rfl⟩, _, ⟨h₅, rfl⟩, _, ⟨h₆, rfl⟩,
      _, ⟨-, rfl⟩, profiles, hprofiles, hl⟩
    exact ⟨by simp [spotTables, h₁, h₂, h₃, h₄, h₅, h₆], profiles, hprofiles, Except.ok.inj hl⟩
  · rintro ⟨h, profiles, hprofiles, rfl⟩
    exact ⟨_, ⟨h (by decide), rfl⟩, _, ⟨h (by decide), rfl⟩, _, ⟨h (by decide), rfl⟩,
      _, ⟨h (by decide), rfl⟩, _, ⟨h (by decide), rfl⟩, _, ⟨h (by decide), rfl⟩,
      _, ⟨h (by decide), rfl⟩, profiles, hprofiles, rfl⟩

/-- The library of spots is to be had exactly if its tables are there and every stored
    profile is understood. -/
theorem exists_loadSpots_iff :
    (∃ l, s.loadSpots = .ok l) ↔
      spotTables ⊆ s.tables ∧ ∀ q ∈ s.contents.profiles, ∃ p, q = .ofProfile q.id p := by
  simp only [loadSpots_eq_ok_iff, ← StoredProfile.exists_hold_iff]
  constructor
  · rintro ⟨l, htables, profiles, hprofiles, -⟩
    exact ⟨htables, profiles, hprofiles⟩
  · rintro ⟨htables, profiles, hprofiles⟩
    exact ⟨_, htables, profiles, hprofiles, rfl⟩

/-- The library finds the first profile that is stored under the name in any case of the
    letters. -/
theorem profile?_eq_some_iff {l : SpotLibrary} (hl : s.loadSpots = .ok l) {n : String}
    {p : Profile} :
    l.profile? n = some p ↔
      ∃ q, s.contents.profiles.find? (Text.sameLetters ·.name n) = some q ∧
        q = .ofProfile q.id p := by
  obtain ⟨-, profiles, hprofiles, rfl⟩ := loadSpots_eq_ok_iff.1 hl
  exact hprofiles.find?

end Store

end HandStudy
