import HandStudy.Proofs.Classification
import HandStudy.Proofs.Rearranged

/-!
# Documents behind links

A link names a document by its id. Nothing is required of the documents of a library, so there may
be several with this id, of which the first is meant (`Document.IsFirst`), or none, and then the link
leads nowhere.

* `TagLibrary.mem_documentsForAll_iff`: the documents of some tags are the first ones that a link of
  one of these tags leads to. So no two of them have the same id (`pairwise_documentsForAll`),
  although a set of documents tells them apart by title and path as well.
* `SpotLibrary.linksInOrder_eq`: a stable sort by the mark puts the default links of a spot before
  the others and leaves both in their order. So the default document of a spot is the first of its
  documents (`head?_documentsFor`).
-/

namespace HandStudy

/-! ## The document with an id -/

namespace Document

variable {documents : List Document} {d e : Document} {id : Int64}

/-- Of the documents with its id this is the first. -/
def IsFirst (documents : List Document) (d : Document) : Prop :=
  ∃ before after, documents = before ++ d :: after ∧ ∀ e ∈ before, e.id ≠ d.id

theorem find?_eq_some_iff : find? documents id = some d ↔ d.id = id ∧ d.IsFirst documents := by
  rw [find?, List.find?_eq_some_iff_append, decide_eq_true_eq]
  refine and_congr_right ?_
  rintro rfl
  simp only [IsFirst, Bool.not_eq_true', decide_eq_false_iff_not]

theorem find?_eq_none_iff : find? documents id = none ↔ ∀ d ∈ documents, d.id ≠ id := by
  simp only [find?, List.find?_eq_none, decide_eq_true_eq, ne_eq]

/-- There is one first document with an id. -/
theorem IsFirst.eq (hd : d.IsFirst documents) (he : e.IsFirst documents) (h : d.id = e.id) :
    d = e := by
  have hfound := find?_eq_some_iff.2 ⟨h, hd⟩
  rw [find?_eq_some_iff.2 ⟨rfl, he⟩] at hfound
  exact (Option.some.inj hfound).symm

end Document

/-! ## The documents of a hand -/

namespace TagLibrary

variable {l : TagLibrary} {tags : List Int64} {d : Document}

theorem mem_documentsForAll_iff :
    d ∈ l.documentsForAll tags ↔
      (∃ t ∈ tags, ⟨t, d.id⟩ ∈ l.links) ∧ d.IsFirst l.documents := by
  simp only [documentsForAll, Ordered.mem_ofList, List.mem_flatMap, documentsFor,
    List.mem_filterMap, List.mem_filter, decide_eq_true_eq, document?, Document.find?_eq_some_iff]
  constructor
  · rintro ⟨t, ht, ⟨_, _⟩, ⟨hlink, rfl⟩, rfl, hfirst⟩
    exact ⟨⟨_, ht, hlink⟩, hfirst⟩
  · rintro ⟨⟨t, ht, hlink⟩, hfirst⟩
    exact ⟨t, ht, _, ⟨hlink, rfl⟩, rfl, hfirst⟩

/-- The documents of some tags are in the order of their ids, each id once. -/
theorem pairwise_documentsForAll (l : TagLibrary) (tags : List Int64) :
    (l.documentsForAll tags).Pairwise fun d e => d.id < e.id := by
  have hset : (l.documentsForAll tags).Pairwise (· < ·) := Ordered.pairwise_ofList _
  refine hset.imp_of_mem ?_
  rintro d e hd he (hlt | ⟨heq, hlt⟩)
  · exact hlt
  · -- With the same id they would be the same document, so the titles and paths do not matter.
    obtain rfl : d = e :=
      (mem_documentsForAll_iff.1 hd).2.eq (mem_documentsForAll_iff.1 he).2 heq
    exact absurd (.inr ⟨rfl, hlt⟩) (irrefl_of (· < ·) d)

theorem relevantDocuments_value [Dialect] (l : TagLibrary) (h : Hand) :
    (l.relevantDocuments h).value = l.documentsForAll (l.activeTags h).value := rfl

/-- The documents of a hand are those that links of its active tags lead to, where a link leads to
    the first document with its id. Their ids are in order and different, so that each document
    comes once, however many tags and links lead to it. Classifying the hand gives the same
    documents, whether by itself or in a batch. None are to be had only if the active tags are not,
    as a rule breaks off. -/
theorem relevantDocuments_exact [Dialect] (l : TagLibrary) (h : Hand) :
    (∀ d, d ∈ (l.relevantDocuments h).value ↔
      (∃ t ∈ (l.activeTags h).value, ⟨t, d.id⟩ ∈ l.links) ∧ d.IsFirst l.documents) ∧
    (l.relevantDocuments h).value.Pairwise (fun d e => d.id < e.id) ∧
    (l.classify h).value.documents = (l.relevantDocuments h).value ∧
    (∀ hands, (l.classifyAll hands).value.map Classification.documents =
      hands.map fun h => (l.relevantDocuments h).value) ∧
    ((l.relevantDocuments h).result? = none ↔ (l.activeTags h).result? = none) := by
  rw [relevantDocuments_value]
  refine ⟨fun d => mem_documentsForAll_iff, pairwise_documentsForAll l _, ?_, fun hands => ?_, ?_⟩
  · rw [classify_value]
  · rw [classifyAll_value, List.map_map]
    rfl
  · rw [Logged.result?_eq_none_iff, Logged.result?_eq_none_iff, aborted_relevantDocuments_iff,
      aborted_activeTags_iff]

/-- Two tags that share a document, of which there are two with the same id; one of the tags is
    linked to it twice and to a document that is not there. -/
def sharedDocuments : TagLibrary where
  rules := [{ id := 1, tag := 7 }, { id := 2, tag := 4 }, { id := 3, tag := 5, players := some 2 }]
  documents := [⟨2, "Blind defence", "bb.md"⟩, ⟨1, "Ranges", "b.md"⟩, ⟨1, "Charts", "a.md"⟩]
  links := [⟨4, 1⟩, ⟨7, 9⟩, ⟨7, 1⟩, ⟨7, 1⟩, ⟨5, 2⟩]

/-- Of the two documents with one id the first is there, once, and the other is not. -/
theorem relevantDocuments_exact_shared :
    (sharedDocuments.activeTags {}).result? = some [4, 7] ∧
      ⟨1, "Ranges", "b.md"⟩ ∈ (sharedDocuments.relevantDocuments {}).value ∧
      ⟨1, "Charts", "a.md"⟩ ∉ (sharedDocuments.relevantDocuments {}).value ∧
      (sharedDocuments.classifyAll [{}, {}]).value.map Classification.documents =
        [[⟨1, "Ranges", "b.md"⟩], [⟨1, "Ranges", "b.md"⟩]] := by
  obtain ⟨hmem, -, -, hbatch, -⟩ := relevantDocuments_exact sharedDocuments {}
  have hfirst : Document.IsFirst sharedDocuments.documents ⟨1, "Ranges", "b.md"⟩ :=
    ⟨[⟨2, "Blind defence", "bb.md"⟩], [⟨1, "Charts", "a.md"⟩], rfl, by decide⟩
  have hvalue : (sharedDocuments.relevantDocuments {}).value = [⟨1, "Ranges", "b.md"⟩] := by
    decide +kernel
  refine ⟨by decide +kernel, (hmem _).2 ⟨⟨4, by decide +kernel, by decide⟩, hfirst⟩,
    fun hcharts => ?_, ?_⟩
  · exact absurd (((hmem _).1 hcharts).2.eq hfirst rfl) (by decide)
  · rw [hbatch, List.map_cons, List.map_cons, List.map_nil, hvalue]

end TagLibrary

/-! ## The documents of a spot -/

namespace SpotLibrary

variable {l : SpotLibrary} {spot : Int64} {d : Document}

theorem mem_linksInOrder_iff {k : SpotDocument} :
    k ∈ l.linksInOrder spot ↔ k ∈ l.links ∧ k.spot = spot := by
  rw [linksInOrder, List.mem_mergeSort, List.mem_filter, decide_eq_true_eq]

/-- The default document stands at the front: its link comes first of all. -/
theorem head?_documentsFor (h : l.defaultDocument? spot = some d) :
    (l.documentsFor spot).head? = some d := by
  rw [defaultDocument?_eq] at h
  obtain ⟨k, hk, hd⟩ := Option.bind_eq_some_iff.1 h
  obtain ⟨links, hlinks⟩ := List.head?_eq_some_iff.1 hk
  rw [documentsFor_eq, hlinks, List.cons_append, follow, List.filterMap_cons, hd]
  rfl

/-- Links that lead somewhere lead to one document each. -/
theorem map_id_follow {links : List SpotDocument}
    (h : ∀ k ∈ links, ∃ d ∈ l.documents, d.id = k.document) :
    (l.follow links).map Document.id = links.map SpotDocument.document :=
  Keyed.map_filterMap_get? h

/-- If the default links of a spot lead somewhere, it has a default document exactly if it has
    such a link. -/
theorem isSome_defaultDocument?_iff
    (h : ∀ k ∈ l.defaultLinks spot, ∃ d ∈ l.documents, d.id = k.document) :
    (l.defaultDocument? spot).isSome ↔ ∃ k ∈ l.links, k.spot = spot ∧ k.isDefault := by
  have hmem (k : SpotDocument) :
      k ∈ l.defaultLinks spot ↔ k ∈ l.links ∧ k.spot = spot ∧ k.isDefault := by
    simp only [defaultLinks, List.mem_filter, decide_eq_true_eq, and_assoc]
  simp only [← hmem, defaultDocument?_eq]
  cases hlinks : l.defaultLinks spot with
  | nil => simp
  | cons k links =>
    obtain ⟨d, hd⟩ : ∃ d, l.document? k.document = some d :=
      Keyed.exists_get?_eq_some (h k (hlinks ▸ List.mem_cons_self))
    simp [hd]

/-- The documents of a spot and its default document go together. The documents are those that the
    links of the spot lead to, its default links first and then the others, each in the order of the
    links, as a stable sort by the mark leaves them; a link leads to the first document with its id,
    and is left out only if there is none. If there is a default document, it is the first of the
    documents. If every link of the spot leads somewhere, there is a default document exactly if
    some link marks one, and there is one document for each link. -/
theorem documentsFor_default_first (l : SpotLibrary) (spot : Int64) :
    l.documentsFor spot = l.follow (l.linksInOrder spot) ∧
    l.linksInOrder spot = l.defaultLinks spot ++ l.otherLinks spot ∧
    (∀ id d, l.document? id = some d ↔ d.id = id ∧ d.IsFirst l.documents) ∧
    (∀ id, l.document? id = none ↔ ∀ d ∈ l.documents, d.id ≠ id) ∧
    (∀ d, l.defaultDocument? spot = some d → (l.documentsFor spot).head? = some d) ∧
    ((∀ k ∈ l.links, k.spot = spot → ∃ d ∈ l.documents, d.id = k.document) →
      ((l.defaultDocument? spot).isSome ↔ ∃ k ∈ l.links, k.spot = spot ∧ k.isDefault) ∧
      (l.documentsFor spot).map Document.id =
        (l.linksInOrder spot).map SpotDocument.document ∧
      (l.documentsFor spot).length = l.links.countP (·.spot = spot)) := by
  refine ⟨rfl, linksInOrder_eq l spot, fun id d => Document.find?_eq_some_iff,
    fun id => Document.find?_eq_none_iff, fun d => head?_documentsFor, fun hlinks => ?_⟩
  have hall : ∀ k ∈ l.linksInOrder spot, ∃ d ∈ l.documents, d.id = k.document := fun k hk =>
    hlinks k (mem_linksInOrder_iff.1 hk).1 (mem_linksInOrder_iff.1 hk).2
  have hids : (l.documentsFor spot).map Document.id =
      (l.linksInOrder spot).map SpotDocument.document := by
    rw [documentsFor, map_id_follow hall]
  refine ⟨isSome_defaultDocument?_iff fun k hk => ?_, hids, ?_⟩
  · rw [linksInOrder_eq] at hall
    exact hall k (List.mem_append_left _ hk)
  · have hlength := congrArg List.length hids
    rw [List.length_map, List.length_map, linksInOrder, List.length_mergeSort] at hlength
    rw [hlength, List.countP_eq_length_filter]

/-- A spot with two default links, neither of them the first and one of them given twice, to
    documents of which two have one id; and a spot whose only link leads nowhere. -/
def manyDefaults : SpotLibrary where
  documents := [⟨3, "Squeezing", "squeeze.md"⟩, ⟨2, "Cold calls", "cold.md"⟩,
    ⟨1, "Ranges", "b.md"⟩, ⟨1, "Charts", "a.md"⟩]
  links := [⟨7, 2, false⟩, ⟨7, 1, true⟩, ⟨8, 9, true⟩, ⟨7, 3, true⟩, ⟨7, 1, true⟩]

/-- Of the documents with one id the first is the default, and it is there for both of its links.
    The link that leads nowhere leaves the other spot without documents. -/
theorem documentsFor_default_first_several :
    manyDefaults.documentsFor 7 = [⟨1, "Ranges", "b.md"⟩, ⟨3, "Squeezing", "squeeze.md"⟩,
      ⟨1, "Ranges", "b.md"⟩, ⟨2, "Cold calls", "cold.md"⟩] ∧
    (manyDefaults.documentsFor 7).head? = some ⟨1, "Ranges", "b.md"⟩ ∧
    (manyDefaults.defaultDocument? 7).isSome ∧ (manyDefaults.documentsFor 7).length = 4 ∧
    manyDefaults.defaultDocument? 8 = none ∧ manyDefaults.documentsFor 8 = [] := by
  have hdefault : manyDefaults.defaultDocument? 7 = some ⟨1, "Ranges", "b.md"⟩ := by decide
  have hlinks : ∀ k ∈ manyDefaults.links, k.spot = 7 →
      ∃ d ∈ manyDefaults.documents, d.id = k.document := by decide
  obtain ⟨-, -, -, -, hfirst, hfound⟩ := documentsFor_default_first manyDefaults 7
  obtain ⟨hsome, -, hlength⟩ := hfound hlinks
  refine ⟨?_, hfirst _ hdefault, hsome.2 (by decide), hlength, by decide, ?_⟩
  · rw [documentsFor_eq]
    decide
  · rw [documentsFor_eq]
    decide

end SpotLibrary

end HandStudy
