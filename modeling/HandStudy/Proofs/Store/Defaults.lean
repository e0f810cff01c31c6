import HandStudy.Proofs.Store.Merge

/-!
# Default documents

A link from a spot to a document says whether the document is the default one. An import writes
the links one by one, each under its spot and its document, so it gives a spot another default
without taking the old one away: a document is marked for a spot exactly if the last link of the
two that was imported marks it, whatever was marked later on
(`Store.spotDocuments_run`). Of several documents that are marked the one with the smallest id is
the default (`SpotLibrary.defaultDocument?_of_least`).

So a spot keeps to one default only while every import that marks a document also lists the one
that was marked before (`SpotLibrary.LaidOver.atMostOne_marks_iff`), and otherwise it has two
(`Store.two_defaults`).
-/

namespace HandStudy

/-! ## Marks -/

/-- At most one document is marked for each spot. -/
def AtMostOne (marks : Int64 → Int64 → Prop) : Prop :=
  ∀ spot d d', marks spot d → marks spot d' → d = d'

/-- The last of some links between a spot and a document marks it as the default. -/
def SpotDocument.LastMarks (links : List SpotDocument) (spot document : Int64) : Prop :=
  ∃ l, Keyed.last? key links ⟨spot, document⟩ = some l ∧ l.isDefault

/-- The library has the document marked as the default of the spot. -/
def SpotLibrary.Marks (l : SpotLibrary) (spot document : Int64) : Prop :=
  ⟨spot, document, true⟩ ∈ l.links

namespace Snapshot

/-- The snapshot marks the document as the default of the spot. -/
def Marks (x : Snapshot) : Int64 → Int64 → Prop :=
  SpotDocument.LastMarks x.spotDocuments

/-- The snapshot links the spot to the document. -/
def Links (x : Snapshot) (spot document : Int64) : Prop :=
  ∃ l ∈ x.spotDocuments, l.key = ⟨spot, document⟩

/-- The snapshot marks at most one link of each spot. -/
def MarksOnce (x : Snapshot) : Prop :=
  (x.spotDocuments.filter (·.isDefault)).Pairwise fun l m => l.spot ≠ m.spot

instance (x : Snapshot) : Decidable x.MarksOnce :=
  inferInstanceAs (Decidable (List.Pairwise _ _))

variable {x : Snapshot} {spot document : Int64}

theorem MarksOnce.atMostOne (h : x.MarksOnce) : AtMostOne x.Marks := by
  rintro spot d d' ⟨l, hl, hdefault⟩ ⟨m, hm, hdefault'⟩
  obtain ⟨hlmem, hlkey⟩ := Keyed.mem_of_get?_eq_some hl
  obtain ⟨hmmem, hmkey⟩ := Keyed.mem_of_get?_eq_some hm
  obtain ⟨hlspot, hld⟩ := LinkKey.mk.inj hlkey
  obtain ⟨hmspot, hmd⟩ := LinkKey.mk.inj hmkey
  have hmarked {l : SpotDocument} (hl : l ∈ x.spotDocuments.reverse) (hdefault : l.isDefault) :
      l ∈ x.spotDocuments.filter (·.isDefault) :=
    List.mem_filter.2 ⟨List.mem_reverse.1 hl, hdefault⟩
  have hsymm : Std.Symm fun l m : SpotDocument => l.spot ≠ m.spot := ⟨fun _ _ => Ne.symm⟩
  by_contra hne
  have hlm : l ≠ m := by
    rintro rfl
    exact hne (hld.symm.trans hmd)
  exact List.Pairwise.forall h (hmarked hlmem hdefault) (hmarked hmmem hdefault') hlm
    (hlspot.trans hmspot.symm)

theorem links_iff : x.Links spot document ↔
    Keyed.last? SpotDocument.key x.spotDocuments ⟨spot, document⟩ ≠ none := by
  rw [Ne, Keyed.last?_eq_none_iff, Links]
  simp

end Snapshot

/-! ## Libraries with a snapshot laid over them -/

namespace SpotLibrary

variable {l before after : SpotLibrary} {x : Snapshot} {spot d : Int64}

theorem marks_iff_get? (hl : Keyed.Sorted SpotDocument.key l.links) :
    l.Marks spot d ↔ ∃ link, Keyed.get? SpotDocument.key l.links ⟨spot, d⟩ = some link ∧
      link.isDefault := by
  constructor
  · exact fun h => ⟨_, hl.get?_eq_some_iff.2 h, rfl⟩
  · rintro ⟨⟨spot', d', default⟩, hlink, rfl⟩
    obtain ⟨hmem, hkey⟩ := Keyed.mem_of_get?_eq_some hlink
    obtain ⟨rfl, rfl⟩ := LinkKey.mk.inj hkey
    exact hmem

/-- After an import those documents are marked that the snapshot marks, and those that were
    marked before and that it does not list. -/
theorem LaidOver.marks_iff (h : LaidOver x before after)
    (hbefore : Keyed.Sorted SpotDocument.key before.links) :
    after.Marks spot d ↔ x.Marks spot d ∨ ¬ x.Links spot d ∧ before.Marks spot d := by
  rw [marks_iff_get? h.links.sorted, marks_iff_get? hbefore, h.links.row, Snapshot.Marks,
    SpotDocument.LastMarks, Snapshot.links_iff]
  cases Keyed.last? SpotDocument.key x.spotDocuments ⟨spot, d⟩ <;> simp

/-- An import that marks one document for each spot leaves it at that exactly if it lists the
    other documents that were marked before for these spots. -/
theorem LaidOver.atMostOne_marks_iff (h : LaidOver x before after)
    (hbefore : Keyed.Sorted SpotDocument.key before.links) (hone : AtMostOne before.Marks)
    (hx : AtMostOne x.Marks) :
    AtMostOne after.Marks ↔
      ∀ spot d d', x.Marks spot d → before.Marks spot d' → d' = d ∨ x.Links spot d' := by
  constructor
  · intro hafter spot d d' hd hd'
    by_contra hneither
    obtain ⟨hne, hlinks⟩ := not_or.1 hneither
    have hmarked : after.Marks spot d' := (h.marks_iff hbefore).2 (.inr ⟨hlinks, hd'⟩)
    exact hne (hafter spot d' d hmarked ((h.marks_iff hbefore).2 (.inl hd)))
  · intro hlisted spot d d' hd hd'
    rcases (h.marks_iff hbefore).1 hd with hd | ⟨hlinks, hd⟩ <;>
      rcases (h.marks_iff hbefore).1 hd' with hd' | ⟨hlinks', hd'⟩
    · exact hx spot d d' hd hd'
    · exact ((hlisted spot d d' hd hd').resolve_right hlinks').symm
    · exact (hlisted spot d' d hd' hd).resolve_right hlinks
    · exact hone spot d d' hd hd'

/-- A spot with no document marked has no default. -/
theorem defaultDocument?_of_not_marks (h : ∀ d, ¬ l.Marks spot d) :
    l.defaultDocument? spot = none := by
  have hfind : (l.links.find? fun link => link.spot = spot && link.isDefault) = none := by
    rw [List.find?_eq_none]
    rintro ⟨spot', d, default⟩ hlink hp
    obtain ⟨rfl, rfl⟩ : spot' = spot ∧ default = true := by simpa using hp
    exact h d hlink
  rw [defaultDocument?, hfind, Option.bind_none]

/-- Of the documents that are marked for a spot the one with the smallest id is the default. -/
theorem defaultDocument?_of_least (hl : Keyed.Sorted SpotDocument.key l.links)
    (hd : l.Marks spot d) (hleast : ∀ d', l.Marks spot d' → d ≤ d') :
    l.defaultDocument? spot = l.document? d := by
  have hfind : (l.links.find? fun link => link.spot = spot && link.isDefault) =
      some ⟨spot, d, true⟩ := by
    obtain ⟨earlier, later, hlinks⟩ := List.append_of_mem hd
    refine List.find?_eq_some_iff_append.2 ⟨by simp, earlier, later, hlinks, ?_⟩
    -- A link before this one that was marked would lead to a smaller document.
    rintro ⟨spot', d', default⟩ hlink
    rw [Bool.not_eq_true', Bool.eq_false_iff]
    intro hp
    obtain ⟨rfl, rfl⟩ : spot' = spot ∧ default = true := by simpa using hp
    have hmarks : l.Marks spot' d' := by
      rw [Marks, hlinks]
      exact List.mem_append_left _ hlink
    rw [Keyed.Sorted, hlinks, List.pairwise_append] at hl
    rcases LinkKey.lt_iff.1 (hl.2.2 _ hlink _ List.mem_cons_self) with hlt | ⟨-, hlt⟩
    · exact Int64.lt_irrefl hlt
    · exact Int64.not_lt.2 (hleast d' hmarks) hlt
  rw [defaultDocument?, hfind, Option.bind_some]

end SpotLibrary

/-! ## Runs -/

namespace Store

variable {s : Store}

/-- The links from spots to documents that a step imports: none, if it is not an import that
    succeeds. -/
def stepLinks (s : Store) : StoreStep → List SpotDocument
  | .init => []
  | .importSnapshot x =>
    match (s.importSnapshot x).1 with
    | .ok _ => x.spotDocuments
    | .error _ => []

/-- The links from spots to documents that several steps import. -/
def importedLinks (s : Store) : List StoreStep → List SpotDocument
  | [] => []
  | a :: steps => s.stepLinks a ++ (s.step a).importedLinks steps

theorem spotDocuments_init (s : Store) :
    s.init.contents.spotDocuments = s.contents.spotDocuments := by
  obtain ⟨added, hadded⟩ := s.init_extends
  rw [hadded]

theorem spotDocuments_step (s : Store) (a : StoreStep) :
    (s.step a).contents.spotDocuments =
      Keyed.putAll SpotDocument.key (s.stepLinks a) s.contents.spotDocuments := by
  cases a with
  | init => exact s.spotDocuments_init
  | importSnapshot x =>
    rw [step, stepLinks]
    cases himport : (s.importSnapshot x).1 with
    | error e =>
      rw [importSnapshot_error himport]
      exact s.spotDocuments_init
    | ok summary =>
      obtain ⟨-, -, hafter⟩ := importSnapshot_eq_ok_iff.1 (Prod.ext himport rfl :
        s.importSnapshot x = (.ok summary, (s.importSnapshot x).2))
      rw [← hafter, Contents.layAll_entries]
      exact congrArg (Keyed.putAll SpotDocument.key x.spotDocuments) s.spotDocuments_init

/-- The links of a store are those that were imported into it, laid over each other. -/
theorem spotDocuments_run (s : Store) (steps : List StoreStep) :
    (s.run steps).contents.spotDocuments =
      Keyed.putAll SpotDocument.key (s.importedLinks steps) s.contents.spotDocuments := by
  induction steps generalizing s with
  | nil => rfl
  | cons a steps ih =>
    rw [importedLinks, Keyed.putAll, List.foldl_append]
    have hrun := ih (s.step a)
    rw [s.spotDocuments_step a] at hrun
    exact hrun

/-- After any run on a new store, a document is marked for a spot exactly if the last link of
    the two that was imported marks it. Several may be marked for one spot, and the one with
    the smallest id is the default. One more import that marks one document for each spot leaves
    no second one marked exactly if it lists the others that were. -/
theorem defaults_of_run (a : StoreStep) (steps : List StoreStep) :
    ∃ l, (run {} (a :: steps)).loadSpots = .ok l ∧
      (∀ spot d, l.Marks spot d ↔
        SpotDocument.LastMarks (importedLinks {} (a :: steps)) spot d) ∧
      (∀ spot, (∀ d, ¬ l.Marks spot d) → l.defaultDocument? spot = none) ∧
      (∀ spot d, l.Marks spot d → (∀ d', l.Marks spot d' → d ≤ d') →
        l.defaultDocument? spot = l.document? d) ∧
      ∀ x summary, ((run {} (a :: steps)).importSnapshot x).1 = .ok summary →
        AtMostOne l.Marks → x.MarksOnce →
        ∃ l', ((run {} (a :: steps)).importSnapshot x).2.loadSpots = .ok l' ∧
          (AtMostOne l'.Marks ↔
            ∀ spot d d', x.Marks spot d → l.Marks spot d' → d' = d ∨ x.Links spot d') := by
  have hsound := sound_run (a :: steps)
  have hinit := initialised_run {} a steps
  have hlinks := spotDocuments_run {} (a :: steps)
  obtain ⟨profiles, hprofiles⟩ := StoredProfile.exists_hold_iff.2 hsound.understood
  generalize run {} (a :: steps) = s at hsound hinit hlinks hprofiles ⊢
  have htables : spotTables ⊆ s.tables := by
    rw [hinit.tables]
    decide
  have hsorted : Keyed.Sorted SpotDocument.key (s.spotLibrary profiles).links :=
    hsound.spotDocuments
  refine ⟨s.spotLibrary profiles, loadSpots_eq_ok_iff.2 ⟨htables, profiles, hprofiles, rfl⟩, ?_,
    fun spot => SpotLibrary.defaultDocument?_of_not_marks,
    fun spot d => SpotLibrary.defaultDocument?_of_least hsorted, ?_⟩
  · intro spot d
    rw [SpotLibrary.marks_iff_get? hsorted, spotLibrary, hlinks, Keyed.get?_putAll,
      SpotDocument.LastMarks]
    cases Keyed.last? SpotDocument.key (importedLinks {} (a :: steps)) ⟨spot, d⟩ <;>
      simp [Keyed.get?]
  · intro x summary himport hone hx
    obtain ⟨hadmits, hafter⟩ := layAll_of_importSnapshot hinit himport
    rw [hafter]
    have hlaid := spotLibrary_layAll hsound hadmits hprofiles
    exact ⟨_, loadSpots_eq_ok_iff.2 ⟨htables, _, hold_layAll hprofiles x, rfl⟩,
      hlaid.atMostOne_marks_iff hsorted hone hx.atMostOne⟩

end Store

/-- A snapshot of a spot with two documents, of which the first is the default. -/
def Snapshot.firstDefault : Snapshot where
  documents := [⟨1, "Squeezing", "squeezing.md"⟩, ⟨2, "Cold calls", "cold.md"⟩]
  spots := [{ id := 1, name := "Squeeze" }]
  spotDocuments := [⟨1, 1, true⟩]

/-- A snapshot that makes the second document the default of the spot. -/
def Snapshot.secondDefault : Snapshot where
  spotDocuments := [⟨1, 2, true⟩]

/-- A snapshot that does so and takes the mark from the first one. -/
def Snapshot.movedDefault : Snapshot where
  spotDocuments := [⟨1, 1, false⟩, ⟨1, 2, true⟩]

/-- Where the old default is listed without a mark, the new one is the only one. -/
theorem Store.defaults_of_run_moved :
    ∃ l', ((run {} [.importSnapshot .firstDefault]).importSnapshot .movedDefault).2.loadSpots =
      .ok l' ∧ AtMostOne l'.Marks := by
  obtain ⟨l, hl, hmarks, -, -, himport⟩ := defaults_of_run (.importSnapshot .firstDefault) []
  have hlinks : importedLinks {} [.importSnapshot .firstDefault] =
      Snapshot.firstDefault.spotDocuments := by decide +kernel
  rw [hlinks] at hmarks
  have hone : AtMostOne l.Marks := by
    intro spot d d' hd hd'
    have honce : Snapshot.firstDefault.MarksOnce := by decide
    exact honce.atMostOne spot d d' ((hmarks spot d).1 hd) ((hmarks spot d').1 hd')
  obtain ⟨l', hl', hiff⟩ := himport .movedDefault ⟨0, 0, 0, 0, 0, 0⟩ (by decide +kernel) hone
    (by decide)
  refine ⟨l', hl', hiff.2 fun spot d d' hd hd' => .inr ?_⟩
  obtain ⟨link, hlink, -⟩ := (hmarks spot d').1 hd'
  obtain ⟨hmem, hkey⟩ := Keyed.mem_of_get?_eq_some hlink
  obtain rfl : link = ⟨1, 1, true⟩ := by simpa [Snapshot.firstDefault] using hmem
  exact ⟨⟨1, 1, false⟩, List.mem_cons_self, hkey⟩

/-- Two imports that mark one document each leave a spot with two defaults, and the one that was
    marked first is taken. -/
theorem Store.two_defaults :
    Snapshot.firstDefault.MarksOnce ∧ Snapshot.secondDefault.MarksOnce ∧
      ((run {} []).importSnapshot .firstDefault).1 = .ok ⟨2, 0, 0, 1, 0, 0⟩ ∧
      ((run {} [.importSnapshot .firstDefault]).importSnapshot .secondDefault).1 =
        .ok ⟨0, 0, 0, 0, 0, 0⟩ ∧
      ∃ l, (run {} [.importSnapshot .firstDefault, .importSnapshot .secondDefault]).loadSpots =
          .ok l ∧
        l.Marks 1 1 ∧ l.Marks 1 2 ∧
        l.defaultDocument? 1 = some ⟨1, "Squeezing", "squeezing.md"⟩ := by
  refine ⟨by decide, by decide, by decide +kernel, by decide +kernel, ?_⟩
  refine ⟨_, rfl, ?_⟩
  simp only [SpotLibrary.Marks]
  decide +kernel

end HandStudy
