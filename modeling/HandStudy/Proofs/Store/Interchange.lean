import HandStudy.Proofs.Rearranged
import HandStudy.Proofs.Store.Bounds
import HandStudy.Proofs.Store.Defaults
import HandStudy.Proofs.Text.Keys

/-!
# A store in place of a snapshot

A new store into which one snapshot is imported says about every hand what the snapshot says
itself (`Store.answers_like_snapshot`). It has the entries in another order
(`Snapshot.tagLibrary_rearranged`, `Snapshot.spotLibrary_rearranged`), the bounds of its rules
are stored ones, and it has more profiles, spelled in its own way, which the spots of a profile
do not show (`SpotLibrary.LaidOver.exists_candidates`).

That takes bounds that are numbers, and profiles that the store can tell from each other by their
names (`Snapshot.TellsApart`): it does not keep a bound that is none, and cuts names short at a
zero character (`Store.answers_unlike_blurred`).
-/

namespace HandStudy

/-- No ids and no links to documents repeat. -/
structure Snapshot.Unrepeated (x : Snapshot) : Prop where
  documents : (x.documents.map Document.id).Nodup
  tags : (x.tags.map Tag.id).Nodup
  tagRules : (x.tagRules.map TagRule.id).Nodup
  tagDocuments : (x.tagDocuments.map TagDocument.key).Nodup
  spots : (x.spots.map Spot.id).Nodup
  spotRules : (x.spotRules.map SpotRule.id).Nodup
  spotDocuments : (x.spotDocuments.map SpotDocument.key).Nodup

/-- The snapshot with the bounds of its rules as they are stored. -/
def Snapshot.stored (x : Snapshot) : Snapshot :=
  { x with tagRules := x.tagRules.map TagRule.stored }

/-- A library of spots without entries, other than profiles. -/
structure SpotLibrary.Blank (l : SpotLibrary) : Prop where
  spots : l.spots = []
  rules : l.rules = []
  documents : l.documents = []
  links : l.links = []
  profileLinks : l.profileLinks = []

/-- To a store the name is the same as another one among the profiles and links only if it is so by
    its letters. -/
def Snapshot.TellsApart (x : Snapshot) (n : String) : Prop :=
  ∀ m ∈ x.profiles.map Profile.name ++ x.spotProfiles.map SpotProfile.profile,
    Text.sameKey m n → Text.sameLetters m n

/-! ## Profiles -/

namespace SpotLibrary

variable {x : Snapshot} {before l : SpotLibrary} {n : String}

/-- A profile that the store has under the name is named so. -/
theorem LaidOver.isNamed_of_isStoredAs (h : LaidOver x before l)
    (hbefore : ∀ p ∈ before.profiles, p.isStoredAs n → p.isNamed n) (hn : x.TellsApart n)
    {p : Profile} (hp : p ∈ l.profiles) (hpn : p.isStoredAs n) : p.isNamed n := by
  rw [h.profiles] at hp
  rcases List.mem_append.1 (Profile.name_mem_of_mem_laidOver hp) with hname | hname
  · obtain ⟨q, hq, hqp⟩ := List.mem_map.1 hname
    rw [Profile.isStoredAs, ← hqp] at hpn
    rw [Profile.isNamed, ← hqp]
    exact hbefore q hq hpn
  · exact hn _ (List.mem_append_left _ hname) hpn

/-- A spot is linked to a profile of a name exactly if the snapshot links it to one. -/
theorem LaidOver.any_profileLinks (h : LaidOver x before l) (hblank : before.Blank)
    (hbefore : ∀ p ∈ before.profiles, p.isStoredAs n → p.isNamed n) (hn : x.TellsApart n)
    {id : Int64} :
    (l.profileLinks.any fun k => k.spot = id && Text.sameLetters k.profile n) =
      x.spotProfiles.any fun k => k.spot = id && Text.sameLetters k.profile n := by
  have hlinks (k : SpotProfile) : k ∈ l.profileLinks ↔ ∃ m ∈ x.spotProfiles, k.spot = m.spot ∧
      ∃ p ∈ l.profiles, p.isStoredAs m.profile ∧ p.name = k.profile := by
    rw [h.profileLinks, hblank.profileLinks]
    simp
  rw [Bool.eq_iff_iff, List.any_eq_true, List.any_eq_true]
  simp only [Bool.and_eq_true, decide_eq_true_eq]
  constructor
  · rintro ⟨k, hk, rfl, hkn⟩
    obtain ⟨m, hm, hspot, p, -, hpm, hname⟩ := (hlinks k).1 hk
    -- The link was given under a name that leads to the same profile.
    have hmn : Text.sameKey m.profile n := by
      rw [← Text.sameKey_congr hpm, hname]
      exact Text.sameKey_of_sameLetters hkn
    exact ⟨m, hm, hspot.symm, hn _ (List.mem_append_right _ (List.mem_map_of_mem hm)) hmn⟩
  -- The name under which the link is stored is that of the profile it leads to.
  · rintro ⟨m, hm, rfl, hmn⟩
    obtain ⟨p, hp, hpm⟩ := h.linked m hm
    have hpn : p.isStoredAs n := by
      rw [Profile.isStoredAs, Text.sameKey_congr hpm]
      exact Text.sameKey_of_sameLetters hmn
    exact ⟨⟨m.spot, p.name⟩, (hlinks _).2 ⟨m, hm, rfl, p, hp, hpm, rfl⟩, rfl,
      h.isNamed_of_isStoredAs hbefore hn hp hpn⟩

/-- Whatever profile is asked for, the spots of a blank library over which a snapshot is laid are
    those of the snapshot. -/
theorem LaidOver.exists_candidates (h : LaidOver x before l) (hblank : before.Blank)
    (hbefore : ∀ p ∈ before.profiles, ∀ n, p.isStoredAs n → p.isNamed n)
    (hspots : l.spots.Perm x.spots) {profile : Option String}
    (hprofile : ∀ n, profile = some n → (∃ p ∈ x.profiles, p.isNamed n) ∧ x.TellsApart n) :
    ∃ spots spots', l.candidates profile = .ok spots ∧
      x.spotLibrary.candidates profile = .ok spots' ∧ spots.Perm spots' := by
  cases profile with
  | none => exact ⟨_, _, rfl, rfl, hspots⟩
  | some n =>
    obtain ⟨⟨p, hp, hpn⟩, hn⟩ := hprofile n rfl
    have hbefore : ∀ p ∈ before.profiles, p.isStoredAs n → p.isNamed n :=
      fun p hp => hbefore p hp n
    have hfound {profiles : List Profile} (hnamed : ∃ q ∈ profiles, q.isNamed n) :
        ∃ q, profiles.find? (·.isNamed n) = some q ∧ q.isNamed n := by
      obtain ⟨q, hq⟩ := Option.isSome_iff_exists.1 (List.find?_isSome.2 hnamed)
      have hqn := List.find?_some hq
      exact ⟨q, hq, hqn⟩
    have hthere : ∃ q ∈ l.profiles, q.isNamed n := by
      obtain ⟨q, hq, hqp⟩ := Profile.exists_isStoredAs_of_mem before.profiles hp
      rw [← h.profiles] at hq
      refine ⟨q, hq, h.isNamed_of_isStoredAs hbefore hn hq ?_⟩
      rw [Profile.isStoredAs_congr hqp]
      exact Text.sameKey_of_sameLetters hpn
    obtain ⟨q, hq, hqn⟩ := hfound hthere
    obtain ⟨q', hq', hqn'⟩ := hfound ⟨p, hp, hpn⟩
    have hcandidates : l.candidates (some n) = .ok (l.spotsFor q.name) := by
      rw [candidates, profile?, hq]
    have hcandidates' : x.spotLibrary.candidates (some n) =
        .ok (x.spotLibrary.spotsFor q'.name) := by
      rw [candidates, profile?, Snapshot.spotLibrary, hq']
    refine ⟨_, _, hcandidates, hcandidates', ?_⟩
    have hlinked (s : Spot) :
        (l.profileLinks.any fun k => k.spot = s.id && Text.sameLetters k.profile q.name) =
          x.spotProfiles.any fun k => k.spot = s.id && Text.sameLetters k.profile q'.name := by
      simp only [Text.sameLetters_comm _ q.name, Text.sameLetters_comm _ q'.name,
        Text.sameLetters_congr hqn, Text.sameLetters_congr hqn', Text.sameLetters_comm n]
      exact h.any_profileLinks hblank hbefore hn
    simp only [spotsFor, hlinked]
    exact hspots.filter _

end SpotLibrary

/-! ## Libraries in another order -/

namespace Snapshot

variable {x : Snapshot}

/-- A library of tags that comes of nothing but a snapshot. -/
theorem tagLibrary_rearranged (hx : x.Unrepeated) {l : TagLibrary}
    (h : TagLibrary.LaidOver x {} l) : l.Rearranges x.stored.tagLibrary where
  documents := h.documents.perm_of_nodup hx.documents
  tags := h.tags.perm_of_nodup hx.tags
  rules := h.rules.perm_of_nodup (by
    rw [List.map_map]
    exact hx.tagRules)
  links := h.links.perm_of_nodup hx.tagDocuments
  documentIds := hx.documents
  tagIds := hx.tags

theorem aborts_stored_iff [Dialect] : x.stored.tagLibrary.Aborts ↔ x.tagLibrary.Aborts := by
  constructor
  · rintro ⟨r, hr, haborts⟩
    obtain ⟨q, hq, rfl⟩ := List.mem_map.1 hr
    exact ⟨q, hq, TagRule.aborts_stored_iff.1 haborts⟩
  · rintro ⟨q, hq, haborts⟩
    exact ⟨q.stored, List.mem_map_of_mem hq, TagRule.aborts_stored_iff.2 haborts⟩

/-- Rules that are stored classify hands as they did. -/
theorem classify_stored [Dialect] (hnumeric : ∀ r ∈ x.tagRules, r.Numeric) (h : Hand) :
    (x.stored.tagLibrary.classify h).value = (x.tagLibrary.classify h).value := by
  have hactive :
      (x.stored.tagLibrary.activeTags h).value = (x.tagLibrary.activeTags h).value := by
    refine TagLibrary.activeTags_congr fun t => ?_
    constructor
    · rintro ⟨r, hr, ht, hm⟩
      obtain ⟨q, hq, rfl⟩ := List.mem_map.1 hr
      exact ⟨q, hq, ht, ((hnumeric q hq).matches_stored_iff h).1 hm⟩
    · rintro ⟨q, hq, ht, hm⟩
      exact ⟨q.stored, List.mem_map_of_mem hq, ht, ((hnumeric q hq).matches_stored_iff h).2 hm⟩
  rw [TagLibrary.classify_value, TagLibrary.classify_value, hactive]
  rfl

/-- A library of spots that comes of nothing but a snapshot and profiles. -/
theorem spotLibrary_rearranged (hx : x.Unrepeated) (hone : x.MarksOnce)
    (hparameters : ∀ r ∈ x.spotRules, r.readBack = r) {before l : SpotLibrary}
    (h : SpotLibrary.LaidOver x before l) (hbefore : before.Blank) :
    l.Rearranges x.spotLibrary ∧ l.spots.Perm x.spots := by
  have hrules : x.spotRules.map SpotRule.readBack = x.spotRules :=
    (List.map_congr_left hparameters).trans (List.map_id _)
  obtain ⟨hspots₀, hrules₀, hdocuments₀, hlinks₀, -⟩ := hbefore
  have hdocuments := h.documents
  have hspots := h.spots
  have hconditions := h.rules
  have hlinks := h.links
  rw [hdocuments₀] at hdocuments
  rw [hspots₀] at hspots
  rw [hrules₀, hrules] at hconditions
  rw [hlinks₀] at hlinks
  refine ⟨⟨hdocuments.perm_of_nodup hx.documents, hconditions.perm_of_nodup hx.spotRules,
    hlinks.perm_of_nodup hx.spotDocuments, hx.documents, hone⟩, hspots.perm_of_nodup hx.spots⟩

end Snapshot

namespace Store

variable {s : Store}

section

variable [Dialect]

theorem source_answer_tags {l : TagLibrary} (hl : s.loadTags = .ok l) (r : TagRequest) :
    s.source.answer (.tags r) = r.answer l := by
  rw [source, hl]
  rfl

theorem source_answer_spots {l : SpotLibrary} (hl : s.loadSpots = .ok l) (r : SpotRequest) :
    s.source.answer (.spots r) = r.answer l := by
  rw [source, hl]
  rfl

/-- A new store with a snapshot answers like the snapshot itself, if nothing repeats in it, it
    marks at most one default document for each spot, and the parameters of its conditions are
    read as they are written. Hands are classified alike, as the bounds of rules are numbers,
    like all floats that a text is read as; of any other rules that are made, a bound that is no
    number is none once it is stored. What is found for a hand is alike, also among the spots of
    a profile that the snapshot has, under a name that the store does not take for another. -/
theorem answers_like_snapshot (x : Snapshot) (hx : x.Unrepeated) (hone : x.MarksOnce)
    (hparameters : ∀ r ∈ x.spotRules, r.readBack = r) (summary : ImportSummary)
    (himport : (importSnapshot {} x).1 = .ok summary) :
    (∀ h, (importSnapshot {} x).2.source.answer (.tags (.classify h)) =
      x.stored.source.answer (.tags (.classify h))) ∧
    ((∃ text, (Json.read text).map Snapshot.decode = some (.ok x)) ∨
        (∀ r ∈ x.tagRules, r.Numeric) →
      ∀ h, (importSnapshot {} x).2.source.answer (.tags (.classify h)) =
        x.source.answer (.tags (.classify h))) ∧
    ∀ profile h, (∀ n, profile = some n → (∃ p ∈ x.profiles, p.isNamed n) ∧ x.TellsApart n) →
      ((importSnapshot {} x).2.source.answer (.spots (.find profile h))).Alike
        (x.source.answer (.spots (.find profile h))) := by
  have hsound : (init {}).contents.Sound := sound_run [.init]
  obtain ⟨hadmits, -, hafter⟩ := importSnapshot_eq_ok_iff.1 (Prod.ext himport rfl :
    importSnapshot {} x = (.ok summary, (importSnapshot {} x).2))
  have hlayAll : (importSnapshot {} x).2 = (init {}).layAll x := hafter.symm
  rw [hlayAll]
  obtain ⟨profiles, hprofiles⟩ := StoredProfile.exists_hold_iff.2 hsound.understood
  have htables : ((init {}).layAll x).tables = Table.all := rfl
  have htagTables : tagTables ⊆ ((init {}).layAll x).tables := by
    rw [htables]
    decide
  have hspotTables : spotTables ⊆ ((init {}).layAll x).tables := by
    rw [htables]
    decide
  have htags := loadTags_eq_ok_iff.2 ⟨htagTables, rfl⟩
  have hspots := loadSpots_eq_ok_iff.2 ⟨hspotTables, _, hold_layAll hprofiles x, rfl⟩
  -- Initialisation adds profiles and nothing else.
  obtain ⟨added, hadded⟩ := init_extends {}
  have hnoTags : (init {}).tagLibrary = {} := by
    rw [tagLibrary, hadded]
  have hblank : ((init {}).spotLibrary profiles).Blank := by
    rw [spotLibrary, hadded]
    exact ⟨rfl, rfl, rfl, rfl, rfl⟩
  -- None of their names has a zero character in it.
  have hdefaults : ∀ p ∈ profiles, ∀ n, p.isStoredAs n → p.isNamed n := by
    intro p hp n hpn
    have hname : p.name ∈ (init {}).contents.profiles.map StoredProfile.name := by
      rw [hprofiles.map_name]
      exact List.mem_map_of_mem hp
    have hzero : ∀ m ∈ (init {}).contents.profiles.map StoredProfile.name, '\x00' ∉ m.toList := by
      decide +kernel
    rw [Profile.isStoredAs, Text.sameKey_comm, Text.sameKey_eq_sameLetters (hzero _ hname)] at hpn
    rw [Profile.isNamed, Text.sameLetters_comm, hpn]
  have hlaidTags := tagLibrary_layAll (x := x) hsound
  rw [hnoTags] at hlaidTags
  have hlaidSpots := spotLibrary_layAll hsound hadmits hprofiles
  have htagLibraries := Snapshot.tagLibrary_rearranged hx hlaidTags
  obtain ⟨hrearranged, hperm⟩ :=
    Snapshot.spotLibrary_rearranged hx hone hparameters hlaidSpots hblank
  refine ⟨fun h => ?_, fun hread h => ?_, fun profile h hprofile => ?_⟩
  · rw [source_answer_tags htags]
    exact TagLibrary.answer_classify_congr htagLibraries.aborts_iff (htagLibraries.classify h)
  · have hnumeric : ∀ r ∈ x.tagRules, r.Numeric := by
      rcases hread with ⟨text, htext⟩ | hnumeric
      · exact Snapshot.numeric_of_read htext
      · exact hnumeric
    rw [source_answer_tags htags]
    refine TagLibrary.answer_classify_congr
      (htagLibraries.aborts_iff.trans Snapshot.aborts_stored_iff) ?_
    exact (htagLibraries.classify h).trans (Snapshot.classify_stored hnumeric h)
  · rw [source_answer_spots hspots]
    obtain ⟨spots, spots', hcandidates, hcandidates', hsame⟩ :=
      hlaidSpots.exists_candidates hblank hdefaults hperm hprofile
    exact hrearranged.answer_find hcandidates hcandidates' hsame h

end

end Store

/-- A snapshot with its entries in no order, a bound of minus zero, and a default profile in other
    letters. -/
def Snapshot.shuffled : Snapshot where
  documents :=
    [⟨3, "Ranges", "ranges.md"⟩, ⟨1, "Squeezing", "squeezing.md"⟩, ⟨2, "Odds", "odds.md"⟩]
  tags := [{ id := 2, name := "deep" }, { id := 1, name := "six" }]
  tagRules :=
    [{ id := 2, tag := 2, minStack := some (-0.0) }, { id := 1, tag := 1, players := some 6 }]
  tagDocuments := [⟨2, 3⟩, ⟨1, 1⟩]
  spots := [{ id := 2, name := "Squeeze" }, { id := 1, name := "Limp" }]
  spotRules := [⟨2, 2, "action_sequence", .obj [("pattern", .str "4r6c")]⟩]
  spotDocuments := [⟨2, 3, false⟩, ⟨2, 2, true⟩, ⟨2, 1, false⟩]
  profiles := [⟨"ZOOM 6-MAX", .cash, .zoom, .six⟩]
  spotProfiles := [⟨2, "zoom 6-max"⟩]

/-- A hand of six players at zero big blinds. -/
def Hand.squeezed : Hand where
  preflop := "4r6c"
  stack := some 0.0
  players := some 6

/-- The store classifies the hand as the snapshot does, and finds the same spot by any spelling of
    the profile, with the default document first. -/
theorem Store.answers_like_snapshot_shuffled :
    (importSnapshot {} .shuffled).2.source.answer (.tags (.classify .squeezed)) =
        Snapshot.shuffled.source.answer (.tags (.classify .squeezed)) ∧
      ((importSnapshot {} .shuffled).2.source.answer
          (.spots (.find (some "Zoom 6-Max") .squeezed))).Alike
        (Snapshot.shuffled.source.answer (.spots (.find (some "Zoom 6-Max") .squeezed))) ∧
      (Snapshot.shuffled.tagLibrary.classify .squeezed).value.tagNames = ["six", "deep"] ∧
      (Snapshot.shuffled.spotLibrary.find (some "Zoom 6-Max") .squeezed).value =
        .ok (some ⟨{ id := 2, name := "Squeeze" }, some ⟨2, "Odds", "odds.md"⟩,
          [⟨2, "Odds", "odds.md"⟩, ⟨3, "Ranges", "ranges.md"⟩,
            ⟨1, "Squeezing", "squeezing.md"⟩]⟩) := by
  have hx : Snapshot.shuffled.Unrepeated := by
    constructor <;> decide +kernel
  have hparameters : ∀ r ∈ Snapshot.shuffled.spotRules, r.readBack = r := by
    intro r hr
    obtain rfl := List.mem_singleton.1 hr
    have hlasts : SpotRule.Lasts ⟨2, 2, "action_sequence", .obj [("pattern", .str "4r6c")]⟩ :=
      ⟨⟨trivial, trivial⟩, rfl⟩
    rw [hlasts.readBack]
    exact if_pos (by decide +kernel)
  have hnumeric : ∀ r ∈ Snapshot.shuffled.tagRules, r.Numeric := by
    intro r hr x hbound
    simp only [Snapshot.shuffled, List.mem_cons, List.not_mem_nil, or_false] at hr
    rcases hr with rfl | rfl
    · obtain rfl : -0.0 = x := by simpa using hbound
      decide +kernel
    · simp at hbound
  have hprofile : ∀ n, some "Zoom 6-Max" = some n →
      (∃ p ∈ Snapshot.shuffled.profiles, p.isNamed n) ∧ Snapshot.shuffled.TellsApart n := by
    intro n hn
    obtain rfl := Option.some.inj hn
    have htold : ∀ m ∈ ["ZOOM 6-MAX", "zoom 6-max"], Text.sameKey m "Zoom 6-Max" →
        Text.sameLetters m "Zoom 6-Max" := by
      decide +kernel
    exact ⟨by decide +kernel, htold⟩
  obtain ⟨-, htags, hspots⟩ := answers_like_snapshot .shuffled hx (by decide +kernel) hparameters
    ⟨3, 2, 2, 2, 1, 1⟩ (by decide +kernel)
  refine ⟨htags (.inr hnumeric) .squeezed, hspots _ .squeezed hprofile, by decide +kernel, ?_⟩
  rw [SpotLibrary.find, SpotLibrary.withDocuments_eq]
  decide +kernel

/-- A snapshot with a bound that is no number, and two profiles that are the same to a store. -/
def Snapshot.blurred : Snapshot where
  tags := [{ id := 1, name := "short" }]
  tagRules := [{ id := 3, tag := 1, minStack := some (0.0 / 0.0) }]
  spots := [{ id := 1, name := "Squeeze" }]
  spotRules := [⟨2, 1, "action_sequence", .obj [("pattern", .str "4r6c")]⟩]
  profiles := [⟨"A\x00B", .cash, .zoom, .six⟩, ⟨"A\x00C", .tournament, .regular, .nine⟩]
  spotProfiles := [⟨1, "A\x00C"⟩]

/-- The store tags the hand by the rule that never holds, and does not find the second profile. -/
theorem Store.answers_unlike_blurred :
    Snapshot.blurred.Unrepeated ∧ Snapshot.blurred.MarksOnce ∧
      (∀ r ∈ Snapshot.blurred.spotRules, r.readBack = r) ∧
      (importSnapshot {} .blurred).1 = .ok ⟨0, 1, 1, 1, 1, 2⟩ ∧
      (∃ l, (importSnapshot {} .blurred).2.loadTags = .ok l ∧
        (l.classify .squeezed).value = ⟨[1], ["short"], []⟩) ∧
      (Snapshot.blurred.tagLibrary.classify .squeezed).value = ⟨[], [], []⟩ ∧
      (∃ p ∈ Snapshot.blurred.profiles, p.isNamed "a\x00c") ∧
      (∃ l, (importSnapshot {} .blurred).2.loadSpots = .ok l ∧
        (l.find (some "a\x00c") .squeezed).value = .error (.unknownProfile "a\x00c")) ∧
      (Snapshot.blurred.spotLibrary.find (some "a\x00c") .squeezed).value =
        .ok (some ⟨{ id := 1, name := "Squeeze" }, none, []⟩) := by
  have hparameters : ∀ r ∈ Snapshot.blurred.spotRules, r.readBack = r := by
    intro r hr
    obtain rfl := List.mem_singleton.1 hr
    have hlasts : SpotRule.Lasts ⟨2, 1, "action_sequence", .obj [("pattern", .str "4r6c")]⟩ :=
      ⟨⟨trivial, trivial⟩, rfl⟩
    rw [hlasts.readBack]
    exact if_pos (by decide +kernel)
  refine ⟨?_, by decide +kernel, hparameters, by decide +kernel, ⟨_, rfl, by decide +kernel⟩,
    by decide +kernel, by decide +kernel, ⟨_, rfl, by decide +kernel⟩, ?_⟩
  · constructor <;> decide +kernel
  · rw [SpotLibrary.find, SpotLibrary.withDocuments_eq]
    decide +kernel

end HandStudy
