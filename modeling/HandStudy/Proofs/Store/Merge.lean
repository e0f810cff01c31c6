import HandStudy.Proofs.Json.RoundTrip
import HandStudy.Proofs.Profile
import HandStudy.Proofs.Store.Load
import HandStudy.Proofs.Store.Sound

/-!
# Imports as merges

An import that succeeds lays the snapshot over the store (`Contents.layAll_entries`), and
the libraries loaded afterwards are those loaded before with the rows of the snapshot laid
over them (`TagLibrary.LaidOver`, `SpotLibrary.LaidOver`). That is so in any store that a run
leads to (`Store.importSnapshot_laidOver`).

Documents, tags, spots, links and profiles come back as they are in the snapshot. So does a
rule of a tag, but for bounds that are minus zero or no number (`TagRule.Lasts`), and so does a
condition of a spot, if the floats in its parameters are read as they are written
(`SpotRule.Lasts`). Not every float is, and names of profiles that differ after a zero character
only are one to the store (`Store.importSnapshot_inexact`).
-/

namespace HandStudy

namespace Contents

variable {c : Contents} {α β : Type}

theorem layAll_append {entries entries' : List Entry} :
    c.layAll (entries ++ entries') = (c.layAll entries).layAll entries' :=
  List.foldl_append

/-- What entries of one kind come to, if that is so entry by entry. -/
theorem layAll_map (entry : β → Entry) (merged : Contents → List β → Contents)
    (hnil : ∀ c, merged c [] = c) (hcons : ∀ c b l, merged c (b :: l) = merged (c.lay (entry b)) l)
    (c : Contents) (l : List β) : c.layAll (l.map entry) = merged c l := by
  induction l generalizing c with
  | nil => exact (hnil c).symm
  | cons b l ih => exact (ih (c.lay (entry b))).trans (hcons c b l).symm

/-- The rows of profiles with one more, or with its format under its name. -/
def putRow (rows : List StoredProfile) (p : Profile) : List StoredProfile :=
  (({ profiles := rows } : Contents).putProfile p).profiles

theorem putRow_eq (rows : List StoredProfile) (p : Profile) :
    putRow rows p = if (rows.find? (·.isNamed p.name)).isSome then rows.map (.reformat p)
      else rows ++ [.ofProfile ({ profiles := rows } : Contents).nextProfileId p] := by
  rw [putRow, putProfile_eq, profile?]
  cases (rows.find? (·.isNamed p.name)).isSome <;> rfl

theorem putProfile_eq_putRow (c : Contents) (p : Profile) :
    c.putProfile p = { c with profiles := putRow c.profiles p } := by
  rw [putRow, putProfile_eq, putProfile_eq, profile?, profile?]
  cases (c.profiles.find? (·.isNamed p.name)).isSome <;> rfl

/-- The link from a spot to the profile of a name, if there is one among the rows. -/
def linkRow? (rows : List StoredProfile) (l : SpotProfile) : Option (LinkKey Nat) :=
  (rows.find? (·.isNamed l.profile)).map fun q => ⟨l.spot, q.id⟩

/-- The links to profiles with more of them, to the profiles among the rows. -/
def linkRows (rows : List StoredProfile) (links : List (LinkKey Nat)) (l : List SpotProfile) :
    List (LinkKey Nat) :=
  Keyed.putAll (fun k => k) (l.filterMap (linkRow? rows)) links

/-! The entries of one table after the other. -/

theorem layAll_documents (c : Contents) (l : List Document) :
    c.layAll (l.map .document) =
      { c with documents := Keyed.putAll Document.id l c.documents } :=
  layAll_map .document (fun c l => { c with documents := Keyed.putAll Document.id l c.documents })
    (fun _ => rfl) (fun _ _ _ => rfl) c l

theorem layAll_tags (c : Contents) (l : List Tag) :
    c.layAll (l.map .tag) = { c with tags := Keyed.putAll Tag.id l c.tags } :=
  layAll_map .tag (fun c l => { c with tags := Keyed.putAll Tag.id l c.tags })
    (fun _ => rfl) (fun _ _ _ => rfl) c l

theorem layAll_tagDocuments (c : Contents) (l : List TagDocument) :
    c.layAll (l.map .tagDocument) =
      { c with tagDocuments := Keyed.putAll TagDocument.key l c.tagDocuments } :=
  layAll_map .tagDocument
    (fun c l => { c with tagDocuments := Keyed.putAll TagDocument.key l c.tagDocuments })
    (fun _ => rfl) (fun _ _ _ => rfl) c l

theorem layAll_tagRules (c : Contents) (l : List TagRule) :
    c.layAll (l.map .tagRule) =
      { c with tagRules := Keyed.putAll TagRule.id (l.map TagRule.stored) c.tagRules } :=
  layAll_map .tagRule
    (fun c l => { c with tagRules := Keyed.putAll TagRule.id (l.map TagRule.stored) c.tagRules })
    (fun _ => rfl) (fun _ _ _ => rfl) c l

theorem layAll_spots (c : Contents) (l : List Spot) :
    c.layAll (l.map .spot) = { c with spots := Keyed.putAll Spot.id l c.spots } :=
  layAll_map .spot (fun c l => { c with spots := Keyed.putAll Spot.id l c.spots })
    (fun _ => rfl) (fun _ _ _ => rfl) c l

theorem layAll_spotRules (c : Contents) (l : List SpotRule) :
    c.layAll (l.map .spotRule) =
      { c with spotRules := Keyed.putAll StoredCondition.id (l.map .ofRule) c.spotRules } :=
  layAll_map .spotRule
    (fun c l => { c with spotRules := Keyed.putAll StoredCondition.id (l.map .ofRule) c.spotRules })
    (fun _ => rfl) (fun _ _ _ => rfl) c l

theorem layAll_spotDocuments (c : Contents) (l : List SpotDocument) :
    c.layAll (l.map .spotDocument) =
      { c with spotDocuments := Keyed.putAll SpotDocument.key l c.spotDocuments } :=
  layAll_map .spotDocument
    (fun c l => { c with spotDocuments := Keyed.putAll SpotDocument.key l c.spotDocuments })
    (fun _ => rfl) (fun _ _ _ => rfl) c l

theorem layAll_profiles (c : Contents) (l : List Profile) :
    c.layAll (l.map .profile) = { c with profiles := l.foldl putRow c.profiles } := by
  refine layAll_map .profile (fun c l => { c with profiles := l.foldl putRow c.profiles })
    (fun _ => rfl) (fun c p l => ?_) c l
  rw [lay, putProfile_eq_putRow]
  rfl

theorem layAll_spotProfiles (c : Contents) (l : List SpotProfile) :
    c.layAll (l.map .spotProfile) =
      { c with spotProfiles := linkRows c.profiles c.spotProfiles l } := by
  refine layAll_map .spotProfile
    (fun c l => { c with spotProfiles := linkRows c.profiles c.spotProfiles l })
    (fun _ => rfl) (fun c l ls => ?_) c l
  simp only [linkRows, List.filterMap_cons, linkRow?]
  rw [lay, linkProfile, profile?]
  cases c.profiles.find? (·.isNamed l.profile) <;> rfl

/-- All entries of a snapshot, laid over contents table by table. -/
theorem layAll_entries (c : Contents) (x : Snapshot) :
    c.layAll x.entries =
      { documents := Keyed.putAll Document.id x.documents c.documents
        tags := Keyed.putAll Tag.id x.tags c.tags
        tagDocuments := Keyed.putAll TagDocument.key x.tagDocuments c.tagDocuments
        tagRules := Keyed.putAll TagRule.id (x.tagRules.map TagRule.stored) c.tagRules
        spots := Keyed.putAll Spot.id x.spots c.spots
        spotRules := Keyed.putAll StoredCondition.id (x.spotRules.map .ofRule) c.spotRules
        spotDocuments := Keyed.putAll SpotDocument.key x.spotDocuments c.spotDocuments
        profiles := x.profiles.foldl putRow c.profiles
        spotProfiles :=
          linkRows (x.profiles.foldl putRow c.profiles) c.spotProfiles x.spotProfiles } := by
  -- Links are written after all profiles, so they lead to the rows as they are in the end.
  simp only [Snapshot.entries, layAll_append, layAll_documents, layAll_tags, layAll_tagDocuments,
    layAll_tagRules, layAll_spots, layAll_spotRules, layAll_spotDocuments, layAll_profiles,
    layAll_spotProfiles]

end Contents

/-! ## Profiles and the links to them -/

/-- One link stands before another: by the spots, and for one spot in the order of the
    profiles. -/
def SpotProfile.Before (profiles : List Profile) (l m : SpotProfile) : Prop :=
  l.spot < m.spot ∨ l.spot = m.spot ∧ [l.profile, m.profile].Sublist (profiles.map Profile.name)

namespace StoredProfile

open Contents (putRow linkRow? linkRows)

variable {rows : List StoredProfile} {profiles : List Profile}

theorem Hold.any_isNamed (h : Hold rows profiles) (n : String) :
    (rows.find? (·.isNamed n)).isSome = profiles.any (·.isStoredAs n) := by
  induction h with
  | nil => rfl
  | @cons q p rows profiles hq _ ih =>
    have hnamed : q.isNamed n = p.isStoredAs n := by
      rw [hq]
      rfl
    rw [List.find?_cons, List.any_cons, hnamed, ← ih]
    cases p.isStoredAs n <;> rfl

/-- A written row holds the profile that is written. -/
theorem Hold.putRow (h : Hold rows profiles) (p : Profile) :
    Hold (putRow rows p) (Profile.put profiles p) := by
  rw [Contents.putRow_eq, h.any_isNamed, Profile.put, Profile.isAmong]
  split
  · refine List.forall₂_map_left_iff.2 (List.forall₂_map_right_iff.2 (h.imp fun q r hq => ?_))
    have hnamed : q.isNamed p.name = r.isStoredAs p.name := by
      rw [hq]
      rfl
    rw [reformat, hnamed]
    split
    · rw [hq]
      rfl
    · exact hq
  · exact List.rel_append h (.cons rfl .nil)

/-- Rows that are written one after the other hold the profiles laid over the old ones. -/
theorem Hold.foldl_putRow (h : Hold rows profiles) (new : List Profile) :
    Hold (new.foldl Contents.putRow rows) (Profile.laidOver profiles new) := by
  rw [← Profile.foldl_put]
  induction new generalizing rows profiles with
  | nil => exact h
  | cons p new ih => exact ih (h.putRow p)

/-- A row that is written over keeps its id and its name. -/
theorem exists_mem_foldl_putRow {q : StoredProfile} (hq : q ∈ rows) (new : List Profile) :
    ∃ r ∈ new.foldl Contents.putRow rows, r.id = q.id ∧ r.name = q.name := by
  induction new generalizing rows q with
  | nil => exact ⟨q, hq, rfl, rfl⟩
  | cons p new ih =>
    have hrow : ∃ r ∈ Contents.putRow rows p, r.id = q.id ∧ r.name = q.name := by
      rw [Contents.putRow_eq]
      split
      · exact ⟨_, List.mem_map_of_mem hq, q.reformat_id p, q.reformat_name p⟩
      · exact ⟨q, List.mem_append_left _ hq, rfl, rfl⟩
    obtain ⟨r, hr, hid, hname⟩ := hrow
    obtain ⟨r', hr', hid', hname'⟩ := ih hr
    exact ⟨r', hr', hid'.trans hid, hname'.trans hname⟩

end StoredProfile

namespace Store

variable {c : Contents} {l : SpotProfile}

/-- The loaded links are those that the table has, with the names of the profiles that
    they lead to. -/
theorem mem_profileLinks (h : c.Sound) :
    l ∈ profileLinks c ↔
      ∃ q ∈ c.profiles, ⟨l.spot, q.id⟩ ∈ c.spotProfiles ∧ q.name = l.profile := by
  have hfind (q : StoredProfile) :
      c.profiles.find? (·.id = q.id) = some q ↔ q ∈ c.profiles := h.profiles.get?_eq_some_iff
  rw [profileLinks, List.mem_filterMap]
  constructor
  · rintro ⟨k, hk, hl⟩
    obtain ⟨q, hq, rfl⟩ := Option.map_eq_some_iff.1 hl
    have hid : q.id = k.target := by simpa using List.find?_some hq
    exact ⟨q, List.mem_of_find?_eq_some hq, hid ▸ hk, rfl⟩
  · rintro ⟨q, hq, hk, hname⟩
    refine ⟨_, hk, ?_⟩
    rw [(hfind q).2 hq]
    simp [hname]

/-- The loaded links are in order. -/
theorem pairwise_profileLinks (h : c.Sound) {profiles : List Profile}
    (hprofiles : StoredProfile.Hold c.profiles profiles) :
    (profileLinks c).Pairwise (SpotProfile.Before profiles) := by
  rw [profileLinks, List.pairwise_filterMap]
  refine h.spotProfiles.imp fun {j k} hjk l hl m hm => ?_
  obtain ⟨q, hq, rfl⟩ := Option.map_eq_some_iff.1 hl
  obtain ⟨r, hr, rfl⟩ := Option.map_eq_some_iff.1 hm
  have hqj : q.id = j.target := by simpa using List.find?_some hq
  have hrk : r.id = k.target := by simpa using List.find?_some hr
  -- Links of one spot are in the order of the ids, which is that of the rows.
  rcases LinkKey.lt_iff.1 hjk with hjk | ⟨hjk, hqr⟩
  · exact .inl hjk
  · have hrows := h.profiles.pair_sublist (List.mem_of_find?_eq_some hq)
      (List.mem_of_find?_eq_some hr) (by rw [hqj, hrk]; exact hqr)
    refine .inr ⟨hjk, ?_⟩
    rw [← hprofiles.map_name]
    exact hrows.map StoredProfile.name

end Store

/-! ## Rules that come back as they are -/

theorem storedStack_eq_self {x : Float} (hnumber : x.isNaN = false) (hzero : x == 0.0 → x = 0.0) :
    storedStack x = some x := by
  rw [storedStack, hnumber, if_neg Bool.false_ne_true]
  split
  · rename_i hx
    rw [hzero hx]
  · rfl

/-- The bounds of the rule are numbers other than minus zero. -/
def TagRule.Lasts (r : TagRule) : Prop :=
  ∀ x, r.minStack = some x ∨ r.maxStack = some x → x.isNaN = false ∧ (x == 0.0 → x = 0.0)

theorem TagRule.Lasts.stored {r : TagRule} (h : r.Lasts) : r.stored = r := by
  have hbound {bound : Option Float} (hr : ∀ x, bound = some x → r.minStack = some x ∨
      r.maxStack = some x) : bound.bind storedStack = bound := by
    cases bound with
    | none => rfl
    | some x => exact storedStack_eq_self (h x (hr x rfl)).1 (h x (hr x rfl)).2
  rw [TagRule.stored, hbound fun _ => .inl, hbound fun _ => .inr]

/-- A condition as it is read back from a store. -/
def SpotRule.readBack (r : SpotRule) : SpotRule :=
  (StoredCondition.ofRule r).rule

/-- The parameters of the condition have the keys of their objects in order, and floats that
    are read as they are written. -/
structure SpotRule.Lasts (r : SpotRule) : Prop where
  parameters : r.parameters.Lasts
  canonical : r.parameters.canonical = r.parameters

/-- Parameters that last come back, if they are not nested too deep. -/
theorem SpotRule.Lasts.readBack {r : SpotRule} (h : r.Lasts) :
    r.readBack =
      if r.parameters.depth ≤ Json.Builder.maxDepth then r else { r with parameters := .null } := by
  rw [SpotRule.readBack, StoredCondition.ofRule, StoredCondition.rule,
    Json.readWhole_print h.parameters]
  split
  · rw [Option.map_some, h.canonical, Option.getD_some]
  · rfl

/-! ## Libraries laid over others -/

/-- The rows of a snapshot laid over a library of tags. -/
structure TagLibrary.LaidOver (x : Snapshot) (before after : TagLibrary) : Prop where
  documents : Keyed.LaidOver Document.id before.documents x.documents after.documents
  tags : Keyed.LaidOver Tag.id before.tags x.tags after.tags
  rules : Keyed.LaidOver TagRule.id before.rules (x.tagRules.map TagRule.stored) after.rules
  links : Keyed.LaidOver TagDocument.key before.links x.tagDocuments after.links

/-- The rows of a snapshot laid over a library of spots. -/
structure SpotLibrary.LaidOver (x : Snapshot) (before after : SpotLibrary) : Prop where
  documents : Keyed.LaidOver Document.id before.documents x.documents after.documents
  spots : Keyed.LaidOver Spot.id before.spots x.spots after.spots
  rules : Keyed.LaidOver SpotRule.id before.rules (x.spotRules.map SpotRule.readBack) after.rules
  links : Keyed.LaidOver SpotDocument.key before.links x.spotDocuments after.links
  profiles : after.profiles = Profile.laidOver before.profiles x.profiles
  /-- Every link of the snapshot is among the links, with the stored spelling, and so are
      the old links, and no others. -/
  profileLinks : ∀ l, l ∈ after.profileLinks ↔ l ∈ before.profileLinks ∨
    ∃ m ∈ x.spotProfiles, l.spot = m.spot ∧
      ∃ p ∈ after.profiles, p.isStoredAs m.profile ∧ p.name = l.profile
  /-- The profiles that the snapshot links to are there. -/
  linked : ∀ m ∈ x.spotProfiles, ∃ p ∈ after.profiles, p.isStoredAs m.profile
  ordered : after.profileLinks.Pairwise (SpotProfile.Before after.profiles)

namespace Contents

variable {c : Contents} {x : Snapshot}

theorem Sound.layAll (h : c.Sound) {entries : List Entry} (hadmits : c.AdmitsAll entries) :
    (c.layAll entries).Sound :=
  layAll_induction (fun _ e h _ => h.lay e) hadmits h

/-- A profile that an admitted entry links to is there at the end. -/
theorem isSome_profile?_of_admitsAll {entries : List Entry} (hadmits : c.AdmitsAll entries)
    {l : SpotProfile} (hl : .spotProfile l ∈ entries) :
    ((c.layAll entries).profile? l.profile).isSome := by
  induction entries generalizing c with
  | nil => cases hl
  | cons e entries ih =>
    rcases List.mem_cons.1 hl with rfl | hl
    · have hlinked : ((c.lay (.spotProfile l)).profile? l.profile).isSome :=
        isSome_profile?_lay _ hadmits.1.1
      exact layAll_induction (P := fun c => (c.profile? l.profile).isSome)
        (c := c.lay (.spotProfile l)) (fun c e h _ => isSome_profile?_lay e h) hadmits.2 hlinked
    · exact ih hadmits.2 hl

/-- The links to profiles after an import are the old ones and those of the snapshot. -/
theorem mem_spotProfiles_layAll (h : c.Sound) {k : LinkKey Nat} :
    k ∈ (c.layAll x.entries).spotProfiles ↔ k ∈ c.spotProfiles ∨
      ∃ m ∈ x.spotProfiles, ∃ q, (c.layAll x.entries).profile? m.profile = some q ∧
        (⟨m.spot, q.id⟩ : LinkKey Nat) = k := by
  rw [layAll_entries, linkRows, Keyed.mem_putAll_self h.spotProfiles, List.mem_filterMap, or_comm]
  simp only [linkRow?, Option.map_eq_some_iff, profile?]

end Contents

namespace Store

variable {s : Store} {x : Snapshot}

/-- A store with a snapshot laid over its contents. -/
def layAll (s : Store) (x : Snapshot) : Store :=
  { s with contents := s.contents.layAll x.entries }

/-- The rows of profiles hold the profiles of the snapshot, laid over those before. -/
theorem hold_layAll {profiles : List Profile}
    (h : StoredProfile.Hold s.contents.profiles profiles) (x : Snapshot) :
    StoredProfile.Hold (s.layAll x).contents.profiles (Profile.laidOver profiles x.profiles) := by
  rw [layAll, Contents.layAll_entries]
  exact h.foldl_putRow x.profiles

theorem tagLibrary_layAll (h : s.contents.Sound) :
    TagLibrary.LaidOver x s.tagLibrary (s.layAll x).tagLibrary := by
  rw [layAll, Contents.layAll_entries]
  exact ⟨Keyed.laidOver_putAll h.documents _, Keyed.laidOver_putAll h.tags _,
    Keyed.laidOver_putAll h.tagRules _, Keyed.laidOver_putAll h.tagDocuments _⟩

/-- The names of the links after an import. -/
theorem mem_profileLinks_layAll (h : s.contents.Sound)
    (hadmits : s.contents.AdmitsAll x.entries) {profiles : List Profile}
    (hprofiles : StoredProfile.Hold (s.layAll x).contents.profiles profiles) {l : SpotProfile} :
    l ∈ profileLinks (s.layAll x).contents ↔ l ∈ profileLinks s.contents ∨
      ∃ m ∈ x.spotProfiles, l.spot = m.spot ∧
        ∃ p ∈ profiles, p.isStoredAs m.profile ∧ p.name = l.profile := by
  have hafter : (s.layAll x).contents.Sound := h.layAll hadmits
  -- Where a link leads to, there is a row of the same id and name before and after.
  have hkept {q : StoredProfile} (hq : q ∈ s.contents.profiles) :
      ∃ r ∈ (s.layAll x).contents.profiles, r.id = q.id ∧ r.name = q.name := by
    rw [layAll, Contents.layAll_entries]
    exact StoredProfile.exists_mem_foldl_putRow hq x.profiles
  have hlinks {k : LinkKey Nat} := Contents.mem_spotProfiles_layAll (x := x) h (k := k)
  rw [mem_profileLinks hafter, mem_profileLinks h]
  constructor
  -- A link after the import was there before, or the snapshot has it.
  · rintro ⟨q, hq, hk, hname⟩
    rcases hlinks.1 hk with hk | ⟨m, hm, r, hr, hk⟩
    · obtain ⟨q₀, hq₀, hid⟩ := h.linked _ hk
      obtain ⟨r, hr, hrid, hrname⟩ := hkept hq₀
      have hrq : r = q := hafter.profiles.eq_of_key_eq hr hq (hrid.trans hid)
      refine .inl ⟨q₀, hq₀, ?_, ?_⟩
      · rw [hid]
        exact hk
      · rw [← hrname, hrq, hname]
    · obtain ⟨hspot, hid⟩ := LinkKey.mk.inj hk
      have hrq : r = q := hafter.profiles.eq_of_key_eq (Contents.mem_of_profile? hr) hq hid
      obtain ⟨p, hp, hqp⟩ := hprofiles.exists_profile hq
      refine .inr ⟨m, hm, hspot.symm, p, hp, ?_, ?_⟩
      · have hnamed : q.isNamed m.profile := hrq ▸ Contents.isNamed_of_profile? hr
        rw [hqp] at hnamed
        exact hnamed
      · rw [← hname, hqp]
        rfl
  · rintro (⟨q₀, hq₀, hk, hname⟩ | ⟨m, hm, hspot, p, hp, hnamed, hname⟩)
    · obtain ⟨r, hr, hrid, hrname⟩ := hkept hq₀
      refine ⟨r, hr, hlinks.2 (.inl ?_), hrname.trans hname⟩
      rw [hrid]
      exact hk
    · obtain ⟨q, hq, hqp⟩ := hprofiles.exists_row hp
      have hqn : q.isNamed m.profile := by
        rw [hqp]
        exact hnamed
      refine ⟨q, hq, hlinks.2 (.inr ⟨m, hm, q, hafter.profile?_eq_some hq hqn, ?_⟩), ?_⟩
      · rw [hspot]
      · rw [hqp]
        exact hname

theorem spotLibrary_layAll (h : s.contents.Sound) (hadmits : s.contents.AdmitsAll x.entries)
    {profiles : List Profile} (hprofiles : StoredProfile.Hold s.contents.profiles profiles) :
    SpotLibrary.LaidOver x (s.spotLibrary profiles)
      ((s.layAll x).spotLibrary (Profile.laidOver profiles x.profiles)) := by
  have hafter : (s.layAll x).contents.Sound := h.layAll hadmits
  have hhold := hold_layAll hprofiles x
  have hcondition (c : StoredCondition) : SpotRule.id c.rule = c.id := rfl
  refine ⟨?_, ?_, ?_, ?_, rfl, ?_, ?_, ?_⟩
  · rw [layAll, Contents.layAll_entries]
    exact Keyed.laidOver_putAll h.documents _
  · rw [layAll, Contents.layAll_entries]
    exact Keyed.laidOver_putAll h.spots _
  · rw [layAll, Contents.layAll_entries]
    have hrules := (Keyed.laidOver_putAll h.spotRules (x.spotRules.map .ofRule)).map hcondition
    rw [List.map_map] at hrules
    exact hrules
  · rw [layAll, Contents.layAll_entries]
    exact Keyed.laidOver_putAll h.spotDocuments _
  · exact fun l => mem_profileLinks_layAll h hadmits hhold
  · intro m hm
    have hentry : .spotProfile m ∈ x.entries := by
      simp [Snapshot.entries, hm]
    obtain ⟨q, hq⟩ := Option.isSome_iff_exists.1
      (Contents.isSome_profile?_of_admitsAll hadmits hentry)
    obtain ⟨p, hp, hqp⟩ := hhold.exists_profile (Contents.mem_of_profile? hq)
    have hnamed := Contents.isNamed_of_profile? hq
    rw [hqp] at hnamed
    exact ⟨p, hp, hnamed⟩
  · exact pairwise_profileLinks hafter hhold

/-- The library of tags of an initialised store is loaded. -/
theorem Initialised.loadTags (hinit : s.Initialised) : s.loadTags = .ok s.tagLibrary := by
  refine loadTags_eq_ok_iff.2 ⟨?_, rfl⟩
  rw [hinit.tables]
  decide

/-- The library of spots of an initialised store is loaded, if its contents are sound. -/
theorem Initialised.exists_loadSpots (hinit : s.Initialised) (hsound : s.contents.Sound) :
    ∃ profiles, StoredProfile.Hold s.contents.profiles profiles ∧
      s.loadSpots = .ok (s.spotLibrary profiles) := by
  obtain ⟨profiles, hprofiles⟩ := StoredProfile.exists_hold_iff.2 hsound.understood
  refine ⟨profiles, hprofiles, loadSpots_eq_ok_iff.2 ⟨?_, profiles, hprofiles, rfl⟩⟩
  rw [hinit.tables]
  decide

/-- A successful import into an initialised store lays the snapshot over it. -/
theorem layAll_of_importSnapshot (hinit : s.Initialised) {summary : ImportSummary}
    (himport : (s.importSnapshot x).1 = .ok summary) :
    s.contents.AdmitsAll x.entries ∧ (s.importSnapshot x).2 = s.layAll x := by
  have hpair : s.importSnapshot x = (.ok summary, (s.importSnapshot x).2) := Prod.ext himport rfl
  obtain ⟨hadmits, -, hafter⟩ := importSnapshot_eq_ok_iff.1 hpair
  rw [hinit.init_eq] at hadmits hafter
  exact ⟨hadmits, hafter.symm⟩

/-- After any run that leaves a store initialised, an import that succeeds is a merge: both
    libraries can be loaded before and after it, and those after it are those before it with
    the snapshot laid over them. -/
theorem importSnapshot_laidOver (steps : List StoreStep) (x : Snapshot) (summary : ImportSummary)
    (hinit : (Store.run {} steps).Initialised)
    (himport : ((Store.run {} steps).importSnapshot x).1 = .ok summary) :
    (∃ before after,
      (Store.run {} steps).loadTags = .ok before ∧
      ((Store.run {} steps).importSnapshot x).2.loadTags = .ok after ∧
      TagLibrary.LaidOver x before after) ∧
    (∃ before after,
      (Store.run {} steps).loadSpots = .ok before ∧
      ((Store.run {} steps).importSnapshot x).2.loadSpots = .ok after ∧
      SpotLibrary.LaidOver x before after) ∧
    (∀ r ∈ x.tagRules, r.Lasts → r.stored = r) ∧
    ∀ r ∈ x.spotRules, r.Lasts → r.readBack =
      if r.parameters.depth ≤ Json.Builder.maxDepth then r else { r with parameters := .null } := by
  have hsound := sound_run steps
  obtain ⟨hadmits, hafter⟩ := layAll_of_importSnapshot hinit himport
  rw [hafter]
  generalize Store.run {} steps = s at hinit hsound hadmits ⊢
  have htagTables : tagTables ⊆ s.tables := by
    rw [hinit.tables]
    decide
  have hspotTables : spotTables ⊆ s.tables := by
    rw [hinit.tables]
    decide
  obtain ⟨profiles, hprofiles⟩ := StoredProfile.exists_hold_iff.2 hsound.understood
  refine ⟨⟨s.tagLibrary, (s.layAll x).tagLibrary, ?_, ?_, tagLibrary_layAll hsound⟩,
    ⟨s.spotLibrary profiles, (s.layAll x).spotLibrary (Profile.laidOver profiles x.profiles),
      ?_, ?_, spotLibrary_layAll hsound hadmits hprofiles⟩,
    fun r _ hr => hr.stored, fun r _ hr => hr.readBack⟩
  · exact loadTags_eq_ok_iff.2 ⟨htagTables, rfl⟩
  · exact loadTags_eq_ok_iff.2 ⟨htagTables, rfl⟩
  · exact loadSpots_eq_ok_iff.2 ⟨hspotTables, profiles, hprofiles, rfl⟩
  · exact loadSpots_eq_ok_iff.2 ⟨hspotTables, _, hold_layAll hprofiles x, rfl⟩

end Store

/-- A snapshot of one spot, with a condition and a profile. -/
def Snapshot.squeezing : Snapshot where
  spots := [{ id := 1, name := "Squeeze" }]
  spotRules := [⟨7, 1, "position", .obj [("equals", .str "BB")]⟩]
  spotProfiles := [⟨1, "zoom 6-MAX"⟩]

/-- A snapshot that gives the spot another name. -/
def Snapshot.renaming : Snapshot where
  spots := [{ id := 1, name := "Squeezes" }]

/-- The condition of a spot is still there when the spot has another name. -/
theorem Store.importSnapshot_laidOver_renaming :
    ∃ before after,
      (Store.run {} [.importSnapshot .squeezing]).loadSpots = .ok before ∧
      ((Store.run {} [.importSnapshot .squeezing]).importSnapshot .renaming).2.loadSpots =
        .ok after ∧
      SpotLibrary.LaidOver .renaming before after ∧ ∃ r ∈ after.rules, r.id = 7 := by
  obtain ⟨-, ⟨before, after, hbefore, hafter, hlaid⟩, -⟩ :=
    importSnapshot_laidOver [.importSnapshot .squeezing] .renaming ⟨0, 0, 0, 1, 0, 0⟩
      (initialised_run {} (.importSnapshot .squeezing) []) (by decide +kernel)
  refine ⟨before, after, hbefore, hafter, hlaid, ?_⟩
  obtain ⟨-, profiles, -, rfl⟩ := loadSpots_eq_ok_iff.1 hbefore
  have hrule : (Keyed.get? SpotRule.id
      ((Store.run {} [.importSnapshot .squeezing]).contents.spotRules.map
        StoredCondition.rule) 7).isSome := by
    decide +kernel
  obtain ⟨r, hr⟩ := Option.isSome_iff_exists.1 hrule
  obtain ⟨hmem, hid⟩ := Keyed.mem_of_get?_eq_some hr
  obtain ⟨r', hr', hkey⟩ := hlaid.rules.kept r hmem
  exact ⟨r', hr', hkey.trans hid⟩

/-- A snapshot that does not come back as it is: a bound is minus zero, another is no number, a
    float is not read as it is written, and two profiles are the same to the store. -/
def Snapshot.inexact : Snapshot where
  tags := [{ id := 1, name := "short" }]
  tagRules := [{ id := 3, tag := 1, minStack := some (-0.0), maxStack := some (0.0 / 0.0) }]
  spots := [{ id := 1, name := "Squeeze" }]
  spotRules := [⟨7, 1, "frequency", .obj [("least", .float 1.0000000000000001e-28)]⟩]
  profiles := [⟨"A\x00B", .cash, .zoom, .six⟩, ⟨"A\x00C", .tournament, .regular, .nine⟩]

/-- Rules need not come back as they are in the snapshot, nor profiles under their names. -/
theorem Store.importSnapshot_inexact :
    ∃ tags tags' spots spots',
      (Store.run {} [.init]).Initialised ∧
      ((Store.run {} [.init]).importSnapshot .inexact).1 = .ok ⟨0, 1, 1, 1, 1, 2⟩ ∧
      (Store.run {} [.init]).loadTags = .ok tags ∧
      ((Store.run {} [.init]).importSnapshot .inexact).2.loadTags = .ok tags' ∧
      (Store.run {} [.init]).loadSpots = .ok spots ∧
      ((Store.run {} [.init]).importSnapshot .inexact).2.loadSpots = .ok spots' ∧
      ¬ Keyed.LaidOver TagRule.id tags.rules Snapshot.inexact.tagRules tags'.rules ∧
      ¬ Keyed.LaidOver SpotRule.id spots.rules Snapshot.inexact.spotRules spots'.rules ∧
      tags'.rules.map (fun r => (r.minStack.map Json.printFloat, r.maxStack.map Json.printFloat)) =
        [(some "0.0", none)] ∧
      spots'.rules.map (fun r => r.parameters.print) =
        ["\x7b\"least\":9.999999999999999e-29\x7d"] ∧
      ¬ ∃ p ∈ spots'.profiles, p.isNamed "A\x00C" := by
  refine ⟨_, _, _, _, initialised_init _, by decide +kernel, rfl, rfl, rfl, rfl, ?_, ?_,
    by decide +kernel, by decide +kernel, by decide +kernel⟩
  · intro hlaid
    have hrow := congrArg (Option.map fun r : TagRule => r.maxStack.isSome) (hlaid.row 3)
    exact absurd hrow (by decide +kernel)
  · intro hlaid
    have hrow := congrArg (Option.map fun r : SpotRule => r.parameters.print) (hlaid.row 7)
    exact absurd hrow (by decide +kernel)

end HandStudy
