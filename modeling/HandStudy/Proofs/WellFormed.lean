import HandStudy.Proofs.Documents
import HandStudy.Proofs.Store.Sound

/-!
# Well-formed libraries

Nothing is required of a library, and what a rule or a link refers to may be missing. Whoever
looks it up passes over it in silence, so that a name or a document is lost. In a well-formed
library nothing is missing (`TagLibrary.WellFormed`, `SpotLibrary.WellFormed`), and nothing is
lost: every active tag has its name (`TagLibrary.WellFormed.tagNames_classify`), and every link
leads to its document, once (`TagLibrary.WellFormed.documentsFor_map_id`,
`SpotLibrary.WellFormed.documentsFor_map_id`).
-/

namespace HandStudy

/-- Two links are between the same spot and the same profile. -/
def SpotProfile.sameLink (j k : SpotProfile) : Bool :=
  j.spot = k.spot && Text.sameLetters j.profile k.profile

/-- The entries of a library of tags are in order, each once, and what they refer to is there. -/
structure TagLibrary.WellFormed (l : TagLibrary) : Prop where
  documents : Keyed.Sorted Document.id l.documents
  tags : Keyed.Sorted Tag.id l.tags
  rules : Keyed.Sorted TagRule.id l.rules
  links : Keyed.Sorted TagDocument.key l.links
  names : (l.tags.map Tag.name).Nodup
  tagOfRule : ∀ r ∈ l.rules, ∃ t ∈ l.tags, t.id = r.tag
  tagOfLink : ∀ k ∈ l.links, ∃ t ∈ l.tags, t.id = k.tag
  documentOfLink : ∀ k ∈ l.links, ∃ d ∈ l.documents, d.id = k.document

/-- The entries of a library of spots are in order, each once, and what they refer to is there.
    Profiles are told apart by their names up to the case of letters, and the default ones are
    among them. -/
structure SpotLibrary.WellFormed (l : SpotLibrary) : Prop where
  documents : Keyed.Sorted Document.id l.documents
  spots : Keyed.Sorted Spot.id l.spots
  rules : Keyed.Sorted SpotRule.id l.rules
  links : Keyed.Sorted SpotDocument.key l.links
  names : (l.spots.map Spot.name).Nodup
  profiles : l.profiles.Pairwise fun p q => ¬ p.isNamed q.name
  defaults : Profile.defaults.map Profile.name <+: l.profiles.map Profile.name
  profileLinks : l.profileLinks.Pairwise fun j k => ¬ j.sameLink k
  spotOfRule : ∀ r ∈ l.rules, ∃ s ∈ l.spots, s.id = r.spot
  spotOfLink : ∀ k ∈ l.links, ∃ s ∈ l.spots, s.id = k.spot
  documentOfLink : ∀ k ∈ l.links, ∃ d ∈ l.documents, d.id = k.document
  spotOfProfileLink : ∀ k ∈ l.profileLinks, ∃ s ∈ l.spots, s.id = k.spot
  profileOfProfileLink : ∀ k ∈ l.profileLinks, ∃ p ∈ l.profiles, p.name = k.profile

/-- Where everything is found, what is found goes with what is looked for, one for one. -/
theorem forall₂_filterMap {α β : Type} {r : α → β → Prop} {f : α → Option β} {l : List α}
    (h : ∀ a ∈ l, ∃ b, f a = some b ∧ r a b) : List.Forall₂ r l (l.filterMap f) := by
  induction l with
  | nil => exact .nil
  | cons a l ih =>
    obtain ⟨ha, hl⟩ := List.forall_mem_cons.1 h
    obtain ⟨b, hb, hr⟩ := ha
    rw [List.filterMap_cons_some hb]
    exact .cons hr (ih hl)

namespace TagLibrary

variable {l : TagLibrary}

/-- Every link of a tag leads to its document, in the order of the links. -/
theorem WellFormed.documentsFor_map_id (h : l.WellFormed) (t : Int64) :
    (l.documentsFor t).map Document.id = (l.links.filter (·.tag = t)).map TagDocument.document :=
  Keyed.map_filterMap_get? fun k hk => h.documentOfLink k (List.mem_of_mem_filter hk)

/-- Every active tag has its name, in its place. -/
theorem WellFormed.tagNames_classify [Dialect] (h : l.WellFormed) (hand : Hand) :
    List.Forall₂ (fun id name => ∃ t ∈ l.tags, t.id = id ∧ t.name = name)
      (l.classify hand).value.tags (l.classify hand).value.tagNames := by
  rw [classify_value]
  refine forall₂_filterMap fun id hid => ?_
  obtain ⟨r, hr, rfl, -⟩ := mem_activeTags.1 hid
  obtain ⟨t, ht⟩ := Keyed.exists_get?_eq_some (h.tagOfRule r hr)
  obtain ⟨hmem, hid⟩ := Keyed.mem_of_get?_eq_some ht
  refine ⟨t.name, ?_, t, hmem, hid, rfl⟩
  rw [tag?]
  exact congrArg (Option.map Tag.name) ht

/-- The document of every link of an active tag is among the documents of a hand. -/
theorem WellFormed.exists_document_of_link [Dialect] (h : l.WellFormed) {hand : Hand}
    {k : TagDocument} (hk : k ∈ l.links) (htag : k.tag ∈ (l.classify hand).value.tags) :
    ∃ d ∈ (l.classify hand).value.documents, d.id = k.document := by
  have hid : k.document ∈ (l.documentsFor k.tag).map Document.id := by
    rw [h.documentsFor_map_id]
    exact List.mem_map_of_mem (List.mem_filter.2 ⟨hk, decide_eq_true rfl⟩)
  obtain ⟨d, hd, hid⟩ := List.mem_map.1 hid
  refine ⟨d, ?_, hid⟩
  rw [classify_value] at htag ⊢
  exact Ordered.mem_ofList.2 (List.mem_flatMap.2 ⟨k.tag, htag, hd⟩)

end TagLibrary

namespace SpotLibrary

variable {l : SpotLibrary}

/-- Every link of a spot leads to its document. -/
theorem WellFormed.documentsFor_map_id (h : l.WellFormed) (s : Int64) :
    ((l.documentsFor s).map Document.id).Perm
      ((l.links.filter (·.spot = s)).map SpotDocument.document) := by
  rw [documentsFor, map_id_follow fun k hk => h.documentOfLink k (mem_linksInOrder_iff.1 hk).1]
  exact (List.mergeSort_perm _ _).map SpotDocument.document

/-- A spot is linked to a document at most once. -/
theorem nodup_linkedDocuments (h : Keyed.Sorted SpotDocument.key l.links) (s : Int64) :
    ((l.links.filter (·.spot = s)).map SpotDocument.document).Nodup := by
  rw [List.Nodup, List.pairwise_map, List.pairwise_filter]
  refine List.Pairwise.imp (fun {j k} hjk hj hk hdocument => ?_) h
  rw [decide_eq_true_eq] at hj hk
  -- Links with the same spot and document have the same key.
  have hkeys : j.key = k.key := congrArg₂ LinkKey.mk (hj.trans hk.symm) hdocument
  exact irrefl_of (· < ·) j.key (hkeys ▸ hjk)

/-- What is found for a hand is a spot of the library with its documents. -/
theorem exists_withDocuments_of_find {profile : Option String} {hand : Hand} {m : SpotMatch}
    (hm : (l.find profile hand).value = .ok (some m)) : ∃ s ∈ l.spots, l.withDocuments s = m := by
  have hcandidates {spots : List Spot} (h : l.candidates profile = .ok spots) :
      spots ⊆ l.spots := by
    cases profile with
    | none => exact Except.ok.inj h ▸ List.Subset.refl _
    | some name =>
      rw [candidates] at h
      cases hp : l.profile? name with
      | none =>
        rw [hp] at h
        cases h
      | some p =>
        rw [hp] at h
        exact Except.ok.inj h ▸ List.filter_subset_self _
  rw [find_value] at hm
  cases hspots : l.candidates profile with
  | error e =>
    rw [hspots] at hm
    cases hm
  | ok spots =>
    rw [hspots, Except.bind] at hm
    cases hanswer : answerFor (spots.filter (l.Fits hand ·)) with
    | error e =>
      rw [hanswer] at hm
      cases hm
    | ok found =>
      rw [hanswer] at hm
      obtain ⟨s, rfl, hsm⟩ := Option.map_eq_some_iff.1 (Except.ok.inj hm)
      have hs : s ∈ spots := List.mem_of_mem_filter (mem_of_answerFor_eq_some hanswer)
      exact ⟨s, hcandidates hspots hs, hsm⟩

/-- What is found for a hand has the documents that are linked to its spot, each once. -/
theorem WellFormed.documents_of_find (h : l.WellFormed) {profile : Option String} {hand : Hand}
    {m : SpotMatch} (hm : (l.find profile hand).value = .ok (some m)) :
    m.spot ∈ l.spots ∧
      (m.documents.map Document.id).Perm
        ((l.links.filter (·.spot = m.spot.id)).map SpotDocument.document) ∧
      (m.documents.map Document.id).Nodup := by
  obtain ⟨s, hs, rfl⟩ := exists_withDocuments_of_find hm
  have hperm := h.documentsFor_map_id s.id
  exact ⟨hs, hperm, hperm.nodup_iff.2 (nodup_linkedDocuments h.links s.id)⟩

end SpotLibrary

end HandStudy
