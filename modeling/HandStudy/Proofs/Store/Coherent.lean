import HandStudy.Proofs.Store.Merge
import HandStudy.Proofs.Text.Keys
import HandStudy.Proofs.WellFormed
import HandStudy.Store.Tampering

/-!
# Coherent contents

A row is checked when it is written, and only then. Contents are coherent if every row would
still pass (`Contents.Coherent`): its name is not taken by another, and what it refers to is
there. They stay so, as later entries take nothing away (`Contents.Coherent.lay`), and a tag
that is deleted takes with it what refers to it (`Contents.Coherent.deleteTag`).

Contents that are sound and coherent, and that have kept the default profiles, are well kept
(`Contents.WellKept`). The libraries loaded from them are well formed
(`Contents.WellKept.tagLibrary`, `Contents.WellKept.spotLibrary`).
-/

namespace HandStudy

/-! ## Names and keys -/

namespace Keyed

variable {α κ : Type} [LT κ] [DecidableEq κ] {key : α → κ} {name : α → String} {l : List α} {k : κ}

/-- No two rows have the same name. -/
def NamesFree (key : α → κ) (name : α → String) (l : List α) : Prop :=
  ∀ a ∈ l, ∀ b ∈ l, name b = name a → key b = key a

omit [LT κ] in
theorem has_filter_ne {k' : κ} (hne : k ≠ k') :
    has key (l.filter (key · ≠ k')) k = has key l k := by
  rw [Bool.eq_iff_iff, has_iff, has_iff]
  constructor
  · rintro ⟨a, ha, rfl⟩
    exact ⟨a, List.mem_of_mem_filter ha, rfl⟩
  · rintro ⟨a, ha, rfl⟩
    exact ⟨a, List.mem_filter.2 ⟨ha, by simpa using hne⟩, rfl⟩

variable [IsStrictTotalOrder κ (· < ·)]

omit [DecidableEq κ] in
/-- In a table in order the names are all different. -/
theorem NamesFree.nodup (h : NamesFree key name l) (hl : Sorted key l) : (l.map name).Nodup := by
  rw [List.Nodup, List.pairwise_map]
  refine List.Pairwise.imp_of_mem (fun {a b} ha hb hab hname => ?_) hl
  exact irrefl_of (· < ·) (key a) (h b hb a ha hname ▸ hab)

variable [DecidableLT κ]

omit [IsStrictTotalOrder κ (· < ·)] in
theorem has_put (a : α) (h : has key l k) : has key (put key a l) k := by
  obtain ⟨b, hb, rfl⟩ := has_iff.1 h
  refine has_iff.2 ?_
  by_cases hba : key b = key a
  · exact ⟨a, mem_put_self, hba.symm⟩
  · exact ⟨b, (mem_put_of_ne hba).2 hb, rfl⟩

/-- Names stay free if a row is written whose name is. -/
theorem NamesFree.put (h : NamesFree key name l) (hl : Sorted key l) {a : α}
    (ha : ∀ b ∈ l, name b = name a → key b = key a) : NamesFree key name (put key a l) := by
  intro b hb c hc hname
  rcases hl.mem_put.1 hb with hba | ⟨-, hb⟩ <;> rcases hl.mem_put.1 hc with hca | ⟨-, hc⟩
  · rw [hba, hca]
  · exact hba ▸ ha c hc (hba ▸ hname)
  · exact hca ▸ (ha b hb (hca ▸ hname.symm)).symm
  · exact h b hb c hc hname

end Keyed

namespace Contents

variable {c : Contents} {e : Entry}

/-! ## Rows that would be admitted -/

/-- Would every row of the contents be admitted? -/
structure Coherent (c : Contents) : Prop where
  tags : Keyed.NamesFree Tag.id Tag.name c.tags
  tagDocuments : ∀ l ∈ c.tagDocuments,
    Keyed.has Document.id c.documents l.document ∧ Keyed.has Tag.id c.tags l.tag
  tagRules : ∀ r ∈ c.tagRules, Keyed.has Tag.id c.tags r.tag
  spots : Keyed.NamesFree Spot.id Spot.name c.spots
  spotRules : ∀ r ∈ c.spotRules, Keyed.has Spot.id c.spots r.spot
  spotDocuments : ∀ l ∈ c.spotDocuments,
    Keyed.has Spot.id c.spots l.spot ∧ Keyed.has Document.id c.documents l.document
  spotProfiles : ∀ k ∈ c.spotProfiles, Keyed.has Spot.id c.spots k.source

theorem coherent_empty : Coherent {} where
  tags := List.forall_mem_nil _
  tagDocuments := List.forall_mem_nil _
  tagRules := List.forall_mem_nil _
  spots := List.forall_mem_nil _
  spotRules := List.forall_mem_nil _
  spotDocuments := List.forall_mem_nil _
  spotProfiles := List.forall_mem_nil _

theorem Coherent.addProfile (h : c.Coherent) (p : Profile) : (c.addProfile p).Coherent :=
  { h with }

theorem Coherent.ensureProfile (h : c.Coherent) (p : Profile) : (c.ensureProfile p).Coherent := by
  rw [Contents.ensureProfile]
  split
  · exact h
  · exact h.addProfile p

/-- An entry that is admitted is a row that would be, and no row is refused on its account. -/
theorem Coherent.lay (h : c.Coherent) (hsound : c.Sound) (hadmits : c.Admits e) :
    (c.lay e).Coherent := by
  cases e with
  | document d =>
    exact { h with
      tagDocuments := fun l hl => (h.tagDocuments l hl).imp_left (Keyed.has_put d)
      spotDocuments := fun l hl => (h.spotDocuments l hl).imp_right (Keyed.has_put d) }
  | tag t =>
    exact { h with
      tags := h.tags.put hsound.tags hadmits
      tagDocuments := fun l hl => (h.tagDocuments l hl).imp_right (Keyed.has_put t)
      tagRules := fun r hr => Keyed.has_put t (h.tagRules r hr) }
  | tagDocument l =>
    refine { h with tagDocuments := fun k hk => ?_ }
    rcases hsound.tagDocuments.mem_put.1 hk with rfl | ⟨-, hk⟩
    · exact hadmits
    · exact h.tagDocuments k hk
  | tagRule r =>
    refine { h with tagRules := fun q hq => ?_ }
    rcases hsound.tagRules.mem_put.1 hq with rfl | ⟨-, hq⟩
    · exact hadmits
    · exact h.tagRules q hq
  | spot s =>
    exact { h with
      spots := h.spots.put hsound.spots hadmits
      spotRules := fun r hr => Keyed.has_put s (h.spotRules r hr)
      spotDocuments := fun l hl => (h.spotDocuments l hl).imp_left (Keyed.has_put s)
      spotProfiles := fun k hk => Keyed.has_put s (h.spotProfiles k hk) }
  | spotRule r =>
    refine { h with spotRules := fun q hq => ?_ }
    rcases hsound.spotRules.mem_put.1 hq with rfl | ⟨-, hq⟩
    · exact hadmits
    · exact h.spotRules q hq
  | spotDocument l =>
    refine { h with spotDocuments := fun k hk => ?_ }
    rcases hsound.spotDocuments.mem_put.1 hk with rfl | ⟨-, hk⟩
    · exact hadmits
    · exact h.spotDocuments k hk
  | profile p =>
    rw [Contents.lay, putProfile_eq]
    split
    · exact { h with }
    · exact h.addProfile p
  | spotProfile l =>
    rw [Contents.lay, linkProfile]
    split
    · exact h
    · refine { h with spotProfiles := fun k hk => ?_ }
      rcases hsound.spotProfiles.mem_put.1 hk with rfl | ⟨-, hk⟩
      · exact hadmits.2
      · exact h.spotProfiles k hk

/-- The rules and links of a tag go with it. -/
theorem Coherent.deleteTag {s : Store} (h : s.contents.Coherent) (id : Int64) :
    (s.deleteTag id).2.contents.Coherent := by
  refine { h with tags := ?_, tagDocuments := ?_, tagRules := ?_ }
  · exact fun t ht u hu => h.tags t (List.mem_of_mem_filter ht) u (List.mem_of_mem_filter hu)
  · intro l hl
    obtain ⟨hl, hne⟩ := List.mem_filter.1 hl
    obtain ⟨hdocument, htag⟩ := h.tagDocuments l hl
    exact ⟨hdocument, (Keyed.has_filter_ne (of_decide_eq_true hne)).trans htag⟩
  · intro r hr
    obtain ⟨hr, hne⟩ := List.mem_filter.1 hr
    exact (Keyed.has_filter_ne (of_decide_eq_true hne)).trans (h.tagRules r hr)

theorem Sound.deleteTag {s : Store} (h : s.contents.Sound) (id : Int64) :
    (s.deleteTag id).2.contents.Sound :=
  { h with
    tags := h.tags.filter _
    tagDocuments := h.tagDocuments.filter _
    tagRules := h.tagRules.filter _ }

/-! ## Names of profiles -/

/-- Whatever is written, the names of profiles stay as they are, and others may follow. -/
theorem profileNames_lay (c : Contents) (e : Entry) :
    c.profiles.map StoredProfile.name <+: (c.lay e).profiles.map StoredProfile.name := by
  cases e with
  | profile p =>
    rw [lay, putProfile_eq]
    split
    · have hnames : (c.profiles.map (.reformat p)).map StoredProfile.name =
          c.profiles.map StoredProfile.name := by
        rw [List.map_map]
        exact List.map_congr_left fun q _ => q.reformat_name p
      exact ⟨[], (List.append_nil _).trans hnames.symm⟩
    · exact (List.prefix_append _ _).map _
  | spotProfile l =>
    rw [lay, linkProfile]
    split <;> exact List.prefix_rfl
  | _ => exact List.prefix_rfl

/-- The contents are sound and coherent, and begin with the default profiles. -/
structure WellKept (c : Contents) : Prop where
  sound : c.Sound
  coherent : c.Coherent
  defaults : Profile.defaults.map Profile.name <+: c.profiles.map StoredProfile.name

theorem WellKept.ensureProfile (h : c.WellKept) (p : Profile) : (c.ensureProfile p).WellKept := by
  obtain ⟨added, hadded⟩ := extends_ensureProfile (c := c) (p := p)
  refine ⟨h.sound.ensureProfile p, h.coherent.ensureProfile p, h.defaults.trans ?_⟩
  rw [hadded]
  exact (List.prefix_append _ _).map _

theorem WellKept.lay (h : c.WellKept) (hadmits : c.Admits e) : (c.lay e).WellKept :=
  ⟨h.sound.lay e, h.coherent.lay h.sound hadmits, h.defaults.trans (c.profileNames_lay e)⟩

theorem WellKept.deleteTag {s : Store} (h : s.contents.WellKept) (id : Int64) :
    (s.deleteTag id).2.contents.WellKept :=
  ⟨h.sound.deleteTag id, h.coherent.deleteTag id, h.defaults⟩

/-- A new store is well kept once it is initialised. -/
theorem wellKept_init : ({} : Store).init.contents.WellKept := by
  refine ⟨Store.sound_run [.init], ?_, by decide⟩
  exact ensureAll_induction (P := Coherent) (fun _ p h => h.ensureProfile p) coherent_empty
    Profile.defaults

/-- After any run on a new store its contents are coherent. -/
theorem coherent_run (steps : List StoreStep) : (Store.run {} steps).contents.Coherent := by
  have hrun := Store.run_induction (s := {}) (P := fun c => c.Sound ∧ c.Coherent)
    (fun _ p h => ⟨h.1.ensureProfile p, h.2.ensureProfile p⟩)
    (fun _ e h hadmits => ⟨h.1.lay e, h.2.lay h.1 hadmits⟩)
    ⟨Store.sound_run [], coherent_empty⟩ steps
  exact hrun.2

/-! ## What is loaded -/

variable {s : Store} {profiles : List Profile}

theorem WellKept.tagLibrary (h : s.contents.WellKept) : s.tagLibrary.WellFormed where
  documents := h.sound.documents
  tags := h.sound.tags
  rules := h.sound.tagRules
  links := h.sound.tagDocuments
  names := h.coherent.tags.nodup h.sound.tags
  tagOfRule r hr := Keyed.has_iff.1 (h.coherent.tagRules r hr)
  tagOfLink l hl := Keyed.has_iff.1 (h.coherent.tagDocuments l hl).2
  documentOfLink l hl := Keyed.has_iff.1 (h.coherent.tagDocuments l hl).1

/-- Stored profiles have names of their own. -/
theorem Sound.pairwise_names (h : c.Sound) :
    (c.profiles.map StoredProfile.name).Pairwise fun m n => ¬ Text.sameLetters m n :=
  List.pairwise_map.2 <| h.distinct.imp fun hkeys hletters =>
    hkeys (Text.sameKey_of_sameLetters hletters)

/-- A spot is linked to a profile at most once. -/
theorem Sound.pairwise_profileLinks (h : c.Sound) :
    (Store.profileLinks c).Pairwise fun j k => ¬ j.sameLink k := by
  obtain ⟨profiles, hprofiles⟩ := StoredProfile.exists_hold_iff.2 h.understood
  refine (Store.pairwise_profileLinks h hprofiles).imp fun {j k} hjk hsame => ?_
  obtain ⟨hspot, hletters⟩ := Bool.and_eq_true_iff.1 hsame
  rw [decide_eq_true_eq] at hspot
  rcases hjk with hlt | ⟨-, hnames⟩
  · exact irrefl_of (· < ·) j.spot (hspot ▸ hlt)
  -- The two names stand one after the other among the names of profiles.
  · rw [← hprofiles.map_name] at hnames
    exact List.rel_of_pairwise_cons (h.pairwise_names.sublist hnames) (List.mem_singleton_self _)
      hletters

theorem WellKept.spotLibrary (h : s.contents.WellKept)
    (hprofiles : StoredProfile.Hold s.contents.profiles profiles) :
    (s.spotLibrary profiles).WellFormed where
  documents := h.sound.documents
  spots := h.sound.spots
  rules := by
    have hid (c : StoredCondition) : SpotRule.id c.rule = c.id := rfl
    exact h.sound.spotRules.map hid
  links := h.sound.spotDocuments
  names := h.coherent.spots.nodup h.sound.spots
  profiles := by
    have hnames := h.sound.pairwise_names
    rw [hprofiles.map_name] at hnames
    exact List.pairwise_map.1 hnames
  defaults := by
    have hdefaults := h.defaults
    rw [hprofiles.map_name] at hdefaults
    exact hdefaults
  profileLinks := h.sound.pairwise_profileLinks
  spotOfRule := by
    intro r hr
    obtain ⟨q, hq, rfl⟩ := List.mem_map.1 hr
    exact Keyed.has_iff.1 (h.coherent.spotRules q hq)
  spotOfLink l hl := Keyed.has_iff.1 (h.coherent.spotDocuments l hl).1
  documentOfLink l hl := Keyed.has_iff.1 (h.coherent.spotDocuments l hl).2
  spotOfProfileLink := by
    intro l hl
    obtain ⟨q, -, hk, -⟩ := (Store.mem_profileLinks h.sound).1 hl
    exact Keyed.has_iff.1 (h.coherent.spotProfiles _ hk)
  profileOfProfileLink := by
    intro l hl
    obtain ⟨q, hq, -, hname⟩ := (Store.mem_profileLinks h.sound).1 hl
    obtain ⟨p, hp, hqp⟩ := hprofiles.exists_profile hq
    refine ⟨p, hp, ?_⟩
    rw [← hname, hqp]
    rfl

end Contents

end HandStudy
