import HandStudy.Proofs.Store.Coherent
import HandStudy.Proofs.Store.Rollback

/-!
# Sessions in good order

A session opens stores, initialises them, imports into them, whether or not that succeeds, and
asks them; and tags are deleted behind its back. Through all of that every store, open or in a
file, is new or well kept (`Session.Orderly.step`, `Session.Orderly.after`), so that both
libraries of a store that was initialised can be loaded and are well formed
(`Session.libraries_wellFormed`).
-/

namespace HandStudy

namespace Store

variable {s : Store}

/-- A store in good order: without tables yet, or with all of them and well kept. -/
def Orderly (s : Store) : Prop :=
  s = {} ∨ s.tables = Table.all ∧ s.contents.WellKept

theorem Orderly.wellKept_init (h : s.Orderly) : s.init.contents.WellKept := by
  rcases h with rfl | ⟨-, h⟩
  · exact Contents.wellKept_init
  · rw [init_contents]
    exact Contents.ensureAll_induction (fun _ p h => h.ensureProfile p) h Profile.defaults

theorem Orderly.step (h : s.Orderly) (a : StoreStep) : (s.step a).Orderly := by
  refine .inr ⟨(s.initialised_step a).tables, ?_⟩
  rcases s.step_cases a with hstep | ⟨x, -, hadmits, hstep⟩
  · exact hstep ▸ h.wellKept_init
  · rw [hstep]
    exact Contents.layAll_induction (P := Contents.WellKept) (fun _ _ h hadmits => h.lay hadmits)
      hadmits h.wellKept_init

theorem Orderly.deleteTag (h : s.Orderly) (id : Int64) : (s.deleteTag id).2.Orderly := by
  rcases h with rfl | ⟨htables, h⟩
  · exact .inl rfl
  · exact .inr ⟨htables, h.deleteTag id⟩

end Store

namespace Workspace

variable {w w' : Workspace} {o : Opened}

/-- All stores in the files are in good order. -/
def Orderly (w : Workspace) : Prop :=
  ∀ p s, (p, .store s) ∈ w.files → s.Orderly

/-- The store that is open, if there is one, is in good order. -/
def Opened.Orderly (o : Opened) : Prop :=
  ∀ s, o.store = some s → s.Orderly

theorem Opened.orderly_fresh : Opened.fresh.Orderly := by
  intro s hs
  obtain rfl := Option.some.inj hs
  exact .inl rfl

theorem Orderly.write (h : w.Orderly) (p : Path) {s : Store} (hs : s.Orderly) :
    (w.write p (.store s)).Orderly := by
  intro q r hr
  rcases List.mem_cons.1 hr with hr | hr
  · obtain ⟨-, hr⟩ := Prod.mk.inj hr
    exact File.store.inj hr ▸ hs
  · exact h q r (List.mem_of_mem_filter hr)

theorem Orderly.keep (h : w.Orderly) (ho : o.Orderly) : (w.keep o).Orderly := by
  rw [Workspace.keep]
  split
  · rename_i p s _ hs
    exact h.write p (ho s hs)
  · exact h

theorem Orderly.of_file? (h : w.Orderly) {p : Path} {s : Store} (hs : w.file? p = some (.store s)) :
    s.Orderly := by
  obtain ⟨earlier, later, hfiles, -⟩ := List.lookup_eq_some_iff.1 hs
  exact h p s (hfiles ▸ List.mem_append_right _ List.mem_cons_self)

/-- A store in a file is what the file holds, or new. -/
theorem File.eq_of_store?_eq_some {f : File} {s : Store} (hs : f.store? = some s) :
    f = .store s ∨ s = {} := by
  cases f with
  | store r => exact .inl (congrArg File.store (Option.some.inj hs))
  | compressed t => cases hs
  | text t | binary size =>
    rw [File.store?] at hs
    split at hs
    · exact .inr (Option.some.inj hs).symm
    · cases hs

/-- A store that is opened is found in good order, or is new. -/
theorem Orderly.openStore (h : w.Orderly) {path : String} (ho : w.openStore path = .ok (o, w')) :
    o.Orderly ∧ w'.Orderly := by
  rw [Workspace.openStore] at ho
  split at ho
  · obtain ⟨rfl, rfl⟩ := Prod.mk.inj (Except.ok.inj ho)
    exact ⟨Opened.orderly_fresh, h⟩
  split at ho
  · cases ho
  split at ho
  all_goals
    obtain ⟨rfl, rfl⟩ := Prod.mk.inj (Except.ok.inj ho)
  · rename_i f hf
    refine ⟨fun s hs => ?_, h⟩
    rcases File.eq_of_store?_eq_some hs with rfl | rfl
    · exact h.of_file? hf
    · exact .inl rfl
  · exact ⟨fun s hs => .inl (Option.some.inj hs).symm, h.write _ (.inl rfl)⟩

theorem Orderly.openExisting (h : w.Orderly) {path : String}
    (ho : w.openExisting path = .ok (o, w')) : o.Orderly ∧ w'.Orderly := by
  rw [Workspace.openExisting] at ho
  split at ho
  · exact h.openStore ho
  · cases ho

theorem Opened.Orderly.init (h : o.Orderly) : o.init.2.Orderly := by
  rw [Opened.init, require]
  intro s hs
  cases ho : o.store with
  | none => simp [ho] at hs
  | some r =>
    simp only [ho, Option.some.injEq] at hs
    exact hs ▸ (h r ho).step .init

theorem Opened.Orderly.importSnapshot (h : o.Orderly) (x : Snapshot) :
    (o.importSnapshot x).2.Orderly := by
  rw [Opened.importSnapshot, require]
  intro s hs
  cases ho : o.store with
  | none => simp [ho] at hs
  | some r =>
    simp only [ho, Option.some.injEq] at hs
    exact hs ▸ (h r ho).step (.importSnapshot x)

end Workspace

/-- A step that does nothing to a store behind its back but delete tags. -/
def SessionStep.Orderly : SessionStep → Prop
  | .tamper t => ∃ id, t = .deleteTag id
  | _ => True

namespace Session

variable {session : Session} {a : SessionStep}

/-- The session after several steps. -/
def after [Dialect] (session : Session) (steps : List SessionStep) : Session :=
  steps.foldl (fun s a => (s.step a).2) session

/-- The store in use and those in the files are in good order. -/
structure Orderly (session : Session) : Prop where
  opened : session.opened.Orderly
  workspace : session.workspace.Orderly

theorem Orderly.keep (h : session.Orderly) {o : Workspace.Opened} (ho : o.Orderly) :
    (session.keep o).Orderly :=
  ⟨ho, h.workspace.keep ho⟩

/-- A session that opens another store finds it in good order, or stays where it is. -/
theorem Orderly.moveTo (h : session.Orderly)
    {result : Except StoreError (Workspace.Opened × Workspace)}
    (hresult : ∀ o w, result = .ok (o, w) → o.Orderly ∧ w.Orderly) :
    (session.moveTo result).2.Orderly := by
  cases result with
  | error e => exact h
  | ok moved =>
    obtain ⟨o, w⟩ := moved
    obtain ⟨ho, hw⟩ := hresult o w rfl
    exact ⟨ho, hw⟩

/-- A step in good order keeps the session in good order. -/
theorem Orderly.step [Dialect] (h : session.Orderly) (ha : a.Orderly) :
    (session.step a).2.Orderly := by
  cases a with
  | openStore path => exact h.moveTo fun o w => h.workspace.openStore
  | openExisting path => exact h.moveTo fun o w => h.workspace.openExisting
  | init => exact session.step_init ▸ h.keep h.opened.init
  | importSnapshot x => exact session.step_importSnapshot x ▸ h.keep (h.opened.importSnapshot x)
  | ask r => exact h
  | tamper t =>
    obtain ⟨id, rfl⟩ := ha
    rw [Session.step, tamper]
    cases hs : session.opened.store with
    | none => exact h
    | some s =>
      refine h.keep fun r hr => ?_
      exact Option.some.inj hr ▸ (h.opened s hs).deleteTag id

theorem Orderly.after [Dialect] (h : session.Orderly) {steps : List SessionStep}
    (hsteps : ∀ a ∈ steps, a.Orderly) : (session.after steps).Orderly := by
  induction steps generalizing session with
  | nil => exact h
  | cons a steps ih =>
    obtain ⟨ha, hsteps⟩ := List.forall_mem_cons.1 hsteps
    exact ih (h.step ha) hsteps

/-- A session begins with a store of its own, among files that hold no stores. After any steps
    in good order, a store in use that was initialised, so that it has tables, gives well-formed
    libraries. So every active tag of a hand, one of whose rules matches, has its name, in its
    place; every link leads to its document; and what is found for a hand has all documents of its
    spot, each once. -/
theorem libraries_wellFormed [Dialect] (w : Workspace) (hw : ∀ p s, (p, .store s) ∉ w.files)
    (steps : List SessionStep) (hsteps : ∀ a ∈ steps, a.Orderly) (s : Store)
    (hs : (after { workspace := w } steps).opened.store = some s) (htables : s.tables ≠ []) :
    ∃ tags spots,
      (after { workspace := w } steps).opened.loadTags = .ok tags ∧
      (after { workspace := w } steps).opened.loadSpots = .ok spots ∧
      tags.WellFormed ∧ spots.WellFormed ∧
      (∀ h t, t ∈ (tags.classify h).value.tags ↔ ∃ r ∈ tags.rules, r.tag = t ∧ r.Matches h) ∧
      (∀ h, List.Forall₂ (fun id name => ∃ t ∈ tags.tags, t.id = id ∧ t.name = name)
        (tags.classify h).value.tags (tags.classify h).value.tagNames) ∧
      (∀ t, (tags.documentsFor t).map Document.id =
        (tags.links.filter (·.tag = t)).map TagDocument.document) ∧
      (∀ h, ∀ k ∈ tags.links, k.tag ∈ (tags.classify h).value.tags →
        ∃ d ∈ (tags.classify h).value.documents, d.id = k.document) ∧
      ∀ profile h m, (spots.find profile h).value = .ok (some m) →
        m.spot ∈ spots.spots ∧
          (m.documents.map Document.id).Perm
            ((spots.links.filter (·.spot = m.spot.id)).map SpotDocument.document) ∧
          (m.documents.map Document.id).Nodup := by
  have hstart : Orderly { workspace := w } :=
    ⟨Workspace.Opened.orderly_fresh, fun p s hmem => absurd hmem (hw p s)⟩
  rcases (hstart.after hsteps).opened s hs with rfl | ⟨hall, hkept⟩
  · exact absurd rfl htables
  obtain ⟨profiles, hprofiles⟩ := StoredProfile.exists_hold_iff.2 hkept.sound.understood
  have htags := hkept.tagLibrary
  have hspots := hkept.spotLibrary hprofiles
  refine ⟨s.tagLibrary, s.spotLibrary profiles, ?_, ?_, htags, hspots,
    fun h t => TagLibrary.mem_tags_classify, htags.tagNames_classify, htags.documentsFor_map_id,
    fun h k hk => htags.exists_document_of_link hk,
    fun profile h m hm => hspots.documents_of_find hm⟩
  · rw [Workspace.Opened.loadTags, Workspace.Opened.require, hs]
    refine Store.loadTags_eq_ok_iff.2 ⟨?_, rfl⟩
    rw [hall]
    decide
  · rw [Workspace.Opened.loadSpots, Workspace.Opened.require, hs]
    refine Store.loadSpots_eq_ok_iff.2 ⟨?_, profiles, hprofiles, rfl⟩
    rw [hall]
    decide

end Session

/-- A snapshot of two tags for all hands, each with its document. -/
def Snapshot.studied : Snapshot where
  documents := [⟨2, "Draws", "draws.md"⟩, ⟨1, "Continuation bets", "cbets.md"⟩]
  tags := [{ id := 2, name := "draw" }, { id := 1, name := "c-bet" }]
  tagRules := [{ id := 1, tag := 2 }, { id := 2, tag := 1 }]
  tagDocuments := [⟨2, 2⟩, ⟨1, 1⟩]

/-- Files without a store. -/
def Workspace.noted : Workspace where
  files := [(["notes"], .text "")]

/-- An import that succeeds and one that fails, into a file from which a tag is deleted before it
    is opened again. -/
def SessionStep.studying : List SessionStep :=
  [.openStore "library", .importSnapshot .studied, .importSnapshot .clashing,
    .tamper (.deleteTag 2), .openStore "", .openExisting "library"]

/-- The file is well formed, and without the rule and the link of the tag. -/
theorem Session.libraries_wellFormed_deleted :
    ∃ tags,
      (after { workspace := .noted } SessionStep.studying).opened.loadTags = .ok tags ∧
      tags.WellFormed ∧ tags.tags.map Tag.id = [1] ∧ tags.rules.map TagRule.id = [2] ∧
      (tags.documentsFor 1).map Document.id = [1] := by
  have hw : ∀ p s, (p, .store s) ∉ Workspace.noted.files := by
    simp [Workspace.noted]
  have hsteps : ∀ a ∈ SessionStep.studying, a.Orderly := by
    simp [SessionStep.studying, SessionStep.Orderly]
  have hstore : (after { workspace := .noted } SessionStep.studying).opened.store.map
      (fun s => (s.tables, s.contents.tags.map Tag.id, s.contents.tagRules.map TagRule.id,
        s.contents.tagDocuments)) = some (Table.all, [1], [2], [⟨1, 1⟩]) := by
    decide +kernel
  obtain ⟨s, hs, hrows⟩ := Option.map_eq_some_iff.1 hstore
  obtain ⟨htables, hrows⟩ := Prod.mk.inj hrows
  obtain ⟨htags, hrows⟩ := Prod.mk.inj hrows
  obtain ⟨hrules, hlinks⟩ := Prod.mk.inj hrows
  obtain ⟨tags, spots, hload, -, hwell, -, -, -, hdocuments, -⟩ :=
    libraries_wellFormed _ hw _ hsteps s hs (by simp [htables, Table.all])
  refine ⟨tags, hload, hwell, ?_⟩
  rw [Workspace.Opened.loadTags, Workspace.Opened.require, hs] at hload
  obtain ⟨-, rfl⟩ := Store.loadTags_eq_ok_iff.1 hload
  refine ⟨htags, hrules, ?_⟩
  rw [hdocuments]
  exact congrArg (fun links => (links.filter (·.tag = 1)).map TagDocument.document) hlinks

end HandStudy
