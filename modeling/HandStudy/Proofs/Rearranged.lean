import HandStudy.Proofs.Classification
import HandStudy.Proofs.Keyed
import HandStudy.Proofs.Resolution
import HandStudy.Request

/-!
# Libraries in another order

Nothing that a library says about a hand depends on the order of its entries, if no ids repeat
and no spot has two default documents: hands are classified alike
(`TagLibrary.Rearranges.classify`), and what is found for them is the same up to the order of
the documents that are no defaults, or of the names of several spots
(`SpotLibrary.Rearranges.answer_find`).
-/

namespace HandStudy

/-! ## Tags -/

/-- The entries of a library of tags in another order. -/
structure TagLibrary.Rearranges (l m : TagLibrary) : Prop where
  documents : l.documents.Perm m.documents
  tags : l.tags.Perm m.tags
  rules : l.rules.Perm m.rules
  links : l.links.Perm m.links
  documentIds : (m.documents.map Document.id).Nodup
  tagIds : (m.tags.map Tag.id).Nodup

namespace TagLibrary

variable {l m : TagLibrary}

/-- The documents of several tags are the same set. -/
theorem Rearranges.documentsForAll (h : l.Rearranges m) (tags : List Int64) :
    l.documentsForAll tags = m.documentsForAll tags := by
  have hdocument (id : Int64) : l.document? id = m.document? id :=
    Keyed.get?_congr_of_perm h.documents h.documentIds id
  refine Ordered.ofList_congr fun d => ?_
  simp only [List.mem_flatMap, documentsFor, List.mem_filterMap, List.mem_filter, hdocument,
    h.links.mem_iff]

section

variable [Dialect]

theorem Rearranges.aborts_iff (h : l.Rearranges m) : l.Aborts ↔ m.Aborts := by
  simp only [Aborts, h.rules.mem_iff]

theorem Rearranges.activeTags (h : l.Rearranges m) (hand : Hand) :
    (l.activeTags hand).value = (m.activeTags hand).value :=
  activeTags_congr fun t => by simp only [h.rules.mem_iff]

/-- Hands are classified alike. -/
theorem Rearranges.classify (h : l.Rearranges m) (hand : Hand) :
    (l.classify hand).value = (m.classify hand).value := by
  have htag (id : Int64) : l.tag? id = m.tag? id :=
    Keyed.get?_congr_of_perm h.tags h.tagIds id
  rw [classify_value, classify_value, h.activeTags, h.documentsForAll]
  simp only [htag]

/-- Libraries that break off alike and classify a hand alike give the same answer. -/
theorem answer_classify_congr {hand : Hand} (haborts : l.Aborts ↔ m.Aborts)
    (hvalue : (l.classify hand).value = (m.classify hand).value) :
    (TagRequest.classify hand).answer l = (TagRequest.classify hand).answer m := by
  have haborted : (l.classify hand).aborted = (m.classify hand).aborted := by
    rw [Bool.eq_iff_iff, aborted_classify_iff, aborted_classify_iff, haborts]
  rw [TagRequest.answer, TagRequest.answer, Answer.ofLogged, Answer.ofLogged, Logged.result?,
    Logged.result?, haborted, hvalue]

end

end TagLibrary

/-! ## Spots -/

/-- The entries of a library of spots in another order. At most one document of each spot is
    marked as the default. -/
structure SpotLibrary.Rearranges (l m : SpotLibrary) : Prop where
  documents : l.documents.Perm m.documents
  rules : l.rules.Perm m.rules
  links : l.links.Perm m.links
  documentIds : (m.documents.map Document.id).Nodup
  oneDefault : (m.links.filter (·.isDefault)).Pairwise fun j k => j.spot ≠ k.spot

/-- The same spot with the same documents: the default one first, the others in any order. -/
structure SpotMatch.Alike (m m' : SpotMatch) : Prop where
  spot : m.spot = m'.spot
  defaultDocument : m.defaultDocument = m'.defaultDocument
  documents : ∃ others others', m.documents = m.defaultDocument.toList ++ others ∧
    m'.documents = m'.defaultDocument.toList ++ others' ∧ others.Perm others'

/-- Both answers say that there is no spot, or name spots that are alike, or both name the same
    several spots in any order. -/
inductive Answer.Alike : Answer → Answer → Prop where
  | none : Alike (.spot none) (.spot none)
  | found {m m' : SpotMatch} (h : m.Alike m') : Alike (.spot (some m)) (.spot (some m'))
  | ambiguous {names names' : List String} (h : names.Perm names') :
    Alike (.spotError (.ambiguous names)) (.spotError (.ambiguous names'))

namespace SpotLibrary

variable {l m : SpotLibrary}

/-- The links of a spot that mark its document as the default. -/
def defaultLinks (l : SpotLibrary) (spot : Int64) : List SpotDocument :=
  (l.links.filter (·.spot = spot)).filter (·.isDefault)

/-- The links of a spot that do not mark their documents as the default. -/
def otherLinks (l : SpotLibrary) (spot : Int64) : List SpotDocument :=
  (l.links.filter (·.spot = spot)).filter (!·.isDefault)

theorem linksInOrder_eq (l : SpotLibrary) (spot : Int64) :
    l.linksInOrder spot = l.defaultLinks spot ++ l.otherLinks spot := by
  rw [linksInOrder, mergeSort_mark fun k : SpotDocument => !k.isDefault, defaultLinks, otherLinks]
  simp only [Bool.not_not]

/-- The documents of a spot are those of its default links, and then those of the others. -/
theorem documentsFor_eq (l : SpotLibrary) (spot : Int64) :
    l.documentsFor spot = l.follow (l.defaultLinks spot ++ l.otherLinks spot) := by
  rw [documentsFor, linksInOrder_eq]

theorem withDocuments_eq (l : SpotLibrary) : l.withDocuments = fun s =>
    ⟨s, l.defaultDocument? s.id, l.follow (l.defaultLinks s.id ++ l.otherLinks s.id)⟩ := by
  funext s
  rw [withDocuments, documentsFor_eq]

theorem defaultDocument?_eq (l : SpotLibrary) (spot : Int64) :
    l.defaultDocument? spot = (l.defaultLinks spot).head?.bind fun k => l.document? k.document := by
  rw [defaultDocument?, defaultLinks, List.filter_filter, List.head?_filter]
  congr 2
  funext k
  exact Bool.and_comm _ _

/-- Of the links of a spot at most one is a default. -/
theorem Rearranges.length_defaultLinks (h : l.Rearranges m) (spot : Int64) :
    (m.defaultLinks spot).length ≤ 1 := by
  have hpairwise : (m.defaultLinks spot).Pairwise fun j k => j.spot ≠ k.spot := by
    rw [defaultLinks, List.filter_filter]
    refine List.Pairwise.sublist ?_ h.oneDefault
    exact List.monotone_filter_right _ fun k hk => (Bool.and_eq_true_iff.1 hk).1
  match hlinks : m.defaultLinks spot, hpairwise with
  | [], _ | [_], _ => simp
  | j :: k :: links, hpairwise =>
    -- Two links of the spot would be of different spots.
    have hspot {i : SpotDocument} (hi : i ∈ m.defaultLinks spot) : i.spot = spot :=
      of_decide_eq_true (List.mem_filter.1 (List.mem_of_mem_filter hi)).2
    have hj : j.spot = spot := hspot (by simp [hlinks])
    have hk : k.spot = spot := hspot (by simp [hlinks])
    exact absurd (hj.trans hk.symm) (List.rel_of_pairwise_cons hpairwise List.mem_cons_self)

theorem Rearranges.defaultLinks (h : l.Rearranges m) (spot : Int64) :
    l.defaultLinks spot = m.defaultLinks spot := by
  have hperm : (l.defaultLinks spot).Perm (m.defaultLinks spot) := (h.links.filter _).filter _
  match hlinks : m.defaultLinks spot, h.length_defaultLinks spot, hperm with
  | [], _, hperm => exact hperm.eq_nil
  | [k], _, hperm => exact hperm.eq_singleton
  | _ :: _ :: _, hlength, _ => simp at hlength

/-- A spot has the same documents in both libraries. -/
theorem Rearranges.withDocuments (h : l.Rearranges m) (s : Spot) :
    (l.withDocuments s).Alike (m.withDocuments s) := by
  have hdocument : l.document? = m.document? := by
    funext id
    exact Keyed.get?_congr_of_perm h.documents h.documentIds id
  have hdefaults (n : SpotLibrary) (hn : (n.defaultLinks s.id).length ≤ 1) :
      (n.defaultLinks s.id).filterMap (fun k => n.document? k.document) =
        (n.defaultDocument? s.id).toList := by
    rw [defaultDocument?_eq]
    match n.defaultLinks s.id, hn with
    | [], _ => rfl
    | [k], _ => cases hk : n.document? k.document <;> simp [hk]
  have hlength := h.length_defaultLinks s.id
  have hdocuments (n : SpotLibrary) (hn : (n.defaultLinks s.id).length ≤ 1) :
      n.documentsFor s.id = (n.defaultDocument? s.id).toList ++
        ((n.links.filter (·.spot = s.id)).filter (!·.isDefault)).filterMap
          fun k => n.document? k.document := by
    rw [documentsFor_eq, ← hdefaults n hn]
    exact List.filterMap_append
  refine ⟨rfl, ?_, _, _, hdocuments l (h.defaultLinks s.id ▸ hlength), hdocuments m hlength, ?_⟩
  · simp only [SpotLibrary.withDocuments, defaultDocument?_eq, h.defaultLinks, hdocument]
  · rw [hdocument]
    exact ((h.links.filter _).filter _).filterMap _

/-- Whether a spot fits does not depend on the order of the rules. -/
theorem Rearranges.fits_iff (h : l.Rearranges m) (hand : Hand) (s : Spot) :
    l.Fits hand s ↔ m.Fits hand s :=
  fits_congr fun _ _ => h.rules.mem_iff

/-- Among the same candidates in any order, hands are found alike. -/
theorem Rearranges.answer_find (h : l.Rearranges m) {profile : Option String}
    {spots spots' : List Spot} (hspots : l.candidates profile = .ok spots)
    (hspots' : m.candidates profile = .ok spots') (hperm : spots.Perm spots') (hand : Hand) :
    ((SpotRequest.find profile hand).answer l).Alike
      ((SpotRequest.find profile hand).answer m) := by
  have hfit : (spots.filter (l.Fits hand ·)).Perm (spots'.filter (m.Fits hand ·)) := by
    simp only [h.fits_iff]
    exact hperm.filter _
  simp only [SpotRequest.answer, find_value, hspots, hspots', Except.bind]
  match spots.filter (l.Fits hand ·), spots'.filter (m.Fits hand ·), hfit with
  | [], [], _ => exact .none
  | [s], [t], hfit =>
    obtain rfl := List.singleton_perm_singleton.1 hfit
    exact .found (h.withDocuments s)
  | _ :: _ :: _, _ :: _ :: _, hfit => exact .ambiguous (hfit.map Spot.name)
  | [], _ :: _, hfit | [_], [], hfit | [_], _ :: _ :: _, hfit | _ :: _ :: _, [], hfit |
    _ :: _ :: _, [_], hfit => exact absurd hfit.length_eq (by simp)

end SpotLibrary

end HandStudy
