import HandStudy.Proofs.Store.Admission

/-!
# Imports that are repeated

To lay the same snapshot over contents once more changes none of the rows
(`Contents.layAll_layAll`), so what is loaded after a repeated import is what was loaded before,
whether it succeeds or fails. It succeeds like the first one, unless a name is handed over within
the snapshot (`Keyed.HandsOver`): a row gives it up to another one that comes later. The other row
has the name already when the import is repeated, so the first one cannot take it again
(`Keyed.freeInTurn_putAll_iff`). For that an id has to be listed twice, under two names.
-/

namespace HandStudy

/-! ## Names that are handed over -/

namespace Keyed

variable {α κ : Type} [DecidableEq κ] {key : α → κ} {name : α → String} {old l : List α}

/-- A row has the name that is left in the end to another id, none of whose rows comes before
    it. -/
def HandsOver (key : α → κ) (name : α → String) (l : List α) : Prop :=
  ∃ before a after b, l = before ++ a :: after ∧ (∀ c ∈ before, key c ≠ key b) ∧
    key b ≠ key a ∧ last? key after (key b) = some b ∧ name b = name a

theorem last?_append {l m : List α} {k : κ} :
    last? key (l ++ m) k = (last? key m k).or (last? key l k) := by
  rw [last?, get?, List.reverse_append, List.find?_append]
  rfl

variable [LT κ] [DecidableLT κ] [IsStrictTotalOrder κ (· < ·)]

/-- Names that were free in their turn are so once more, unless one of them was handed over. -/
theorem freeInTurn_putAll_iff (hold : Sorted key old) (h : FreeInTurn key name old l) :
    FreeInTurn key name (putAll key l old) l ↔ ¬ HandsOver key name l := by
  rw [freeInTurn_iff] at h ⊢
  constructor
  · rintro hagain ⟨before, a, after, b, rfl, hbefore, hne, hb, hname⟩
    -- The other id has its last row from the start, and with it the name.
    have hrow : get? key (putAll key before (putAll key (before ++ a :: after) old)) (key b) =
        some b := by
      rw [get?_putAll, get?_putAll, last?_eq_none_iff.2 hbefore, last?_append, last?_cons, hb]
      rfl
    exact hne (hagain before a after rfl b (mem_of_get?_eq_some hrow).1 hname)
  · intro hnot before a after hsplit b hb hname
    by_contra hne
    have hrow := ((hold.putAll l).putAll before).get?_eq_some_iff.2 hb
    rw [get?_putAll] at hrow
    -- A row that was there in the first turn as well does not have the name.
    have hfirst (hb : get? key (putAll key before old) (key b) = some b) : False :=
      hne (h before a after hsplit b (mem_of_get?_eq_some hb).1 hname)
    cases hbefore : last? key before (key b) with
    | some c =>
      rw [hbefore] at hrow
      exact hfirst (by rw [get?_putAll, hbefore]; exact hrow)
    | none =>
      rw [hbefore, Option.none_or, get?_putAll, hsplit, last?_append, hbefore, Option.or_none,
        last?_cons, if_neg (Ne.symm hne), Option.or_none] at hrow
      cases hafter : last? key after (key b) with
      | some c =>
        rw [hafter] at hrow
        obtain rfl : c = b := Option.some.inj hrow
        exact hnot ⟨before, a, after, c, hsplit, last?_eq_none_iff.1 hbefore, hne, hafter, hname⟩
      | none =>
        rw [hafter] at hrow
        exact hfirst (by rw [get?_putAll, hbefore]; exact hrow)

omit [IsStrictTotalOrder κ (· < ·)] in
/-- A name that was free in its turn can only be handed over by an id that is listed under two
    names. -/
theorem not_handsOver (h : FreeInTurn key name old l)
    (hl : ∀ a ∈ l, ∀ b ∈ l, key a = key b → name a = name b) : ¬ HandsOver key name l := by
  rintro ⟨before, a, after, b, rfl, -, hne, hb, hname⟩
  obtain ⟨hmem, -⟩ := mem_of_get?_eq_some hb
  obtain ⟨between, rest, rfl⟩ := List.append_of_mem (List.mem_reverse.1 hmem)
  -- When the name is taken, the last row of the first id still has it.
  have hrow : ∃ c, last? key (before ++ a :: between) (key a) = some c :=
    exists_get?_eq_some ⟨a, by simp, rfl⟩
  obtain ⟨c, hc⟩ := hrow
  obtain ⟨hcmem, hckey⟩ := mem_of_get?_eq_some hc
  have hcl : c ∈ before ++ a :: (between ++ b :: rest) := by
    have hcmem := List.mem_reverse.1 hcmem
    simp only [List.mem_append, List.mem_cons] at hcmem ⊢
    tauto
  have hcname : name c = name b := (hl c hcl a (by simp) hckey).trans hname.symm
  have hcrow : get? key (putAll key (before ++ a :: between) old) (key a) = some c := by
    rw [get?_putAll, hc]
    rfl
  have hfree := freeInTurn_iff.1 h (before ++ a :: between) b rest (by simp) c
    (mem_of_get?_eq_some hcrow).1 hcname
  exact hne (hfree.symm.trans hckey)

end Keyed

/-! ## Rows that are written again -/

namespace StoredProfile

variable {rows rows' : List StoredProfile} {profiles : List Profile}

/-- Rows with the same ids hold the same profiles only if they are the same. -/
theorem Hold.ext (h : Hold rows profiles) (h' : Hold rows' profiles)
    (hid : rows.map StoredProfile.id = rows'.map StoredProfile.id) : rows = rows' := by
  induction h generalizing rows' with
  | nil =>
    cases h'
    rfl
  | @cons q p rows profiles hq _ ih =>
    cases h' with
    | @cons r _ rows' _ hr hrows' =>
      obtain ⟨hqr, hids⟩ := List.cons.inj hid
      rw [ih hrows' hids, hq, hr, hqr]

/-- Where profiles of the names are there, writing them adds no row. -/
theorem map_id_foldl_putRow {new : List Profile}
    (h : ∀ p ∈ new, (rows.find? (·.isNamed p.name)).isSome) :
    (new.foldl Contents.putRow rows).map StoredProfile.id = rows.map StoredProfile.id := by
  induction new generalizing rows with
  | nil => rfl
  | cons p new ih =>
    obtain ⟨hp, hnew⟩ := List.forall_mem_cons.1 h
    have hrows : Contents.putRow rows p = rows.map (.reformat p) := by
      rw [Contents.putRow_eq, if_pos hp]
    rw [List.foldl_cons, hrows, ih, List.map_map]
    · exact List.map_congr_left fun q _ => q.reformat_id p
    · intro q hq
      rw [List.find?_map, Option.isSome_map]
      simp only [Function.comp_def, isNamed_reformat]
      exact hnew q hq

/-- Profiles that have been written are written again without effect. -/
theorem Hold.foldl_putRow_again (h : Hold rows profiles) (new : List Profile) :
    new.foldl Contents.putRow (new.foldl Contents.putRow rows) =
      new.foldl Contents.putRow rows := by
  have honce := h.foldl_putRow new
  have hagain := honce.foldl_putRow new
  rw [Profile.laidOver_laidOver] at hagain
  refine hagain.ext honce (map_id_foldl_putRow fun p hp => ?_)
  rw [honce.any_isNamed, List.any_eq_true]
  exact Profile.exists_isStoredAs_of_mem profiles hp

end StoredProfile

namespace Contents

variable {c : Contents} {x : Snapshot}

/-- A snapshot that has been laid over contents is laid over them again without effect. -/
theorem layAll_layAll (h : c.Sound) (x : Snapshot) :
    (c.layAll x.entries).layAll x.entries = c.layAll x.entries := by
  obtain ⟨profiles, hprofiles⟩ := StoredProfile.exists_hold_iff.2 h.understood
  have hrows := StoredProfile.Hold.foldl_putRow_again hprofiles x.profiles
  rw [layAll_entries (c.layAll x.entries), layAll_entries c]
  simp only [hrows, linkRows, h.documents.putAll_putAll, h.tags.putAll_putAll,
    h.tagDocuments.putAll_putAll, h.tagRules.putAll_putAll, h.spots.putAll_putAll,
    h.spotRules.putAll_putAll, h.spotDocuments.putAll_putAll, h.spotProfiles.putAll_putAll]

/-- A snapshot that was accepted is accepted again exactly if it hands over no name. -/
theorem Accepts.layAll_iff (h : c.Accepts x) (hsound : c.Sound) :
    (c.layAll x.entries).Accepts x ↔
      ¬ Keyed.HandsOver Tag.id Tag.name x.tags ∧ ¬ Keyed.HandsOver Spot.id Spot.name x.spots := by
  have htags : (c.layAll x.entries).tags = Keyed.putAll Tag.id x.tags c.tags := by
    rw [layAll_entries]
  have hspots : (c.layAll x.entries).spots = Keyed.putAll Spot.id x.spots c.spots := by
    rw [layAll_entries]
  rw [← Keyed.freeInTurn_putAll_iff hsound.tags h.tags,
    ← Keyed.freeInTurn_putAll_iff hsound.spots h.spots, ← htags, ← hspots]
  refine ⟨fun hagain => ⟨hagain.tags, hagain.spots⟩, fun hnames => ?_⟩
  -- What the snapshot refers to is as much there as it was the first time.
  have hsame := layAll_layAll hsound x
  refine ⟨hnames.1, hnames.2, ?_, ?_, ?_, ?_, ?_⟩ <;> rw [hsame]
  · exact h.tagDocuments
  · exact h.tagRules
  · exact h.spotRules
  · exact h.spotDocuments
  · exact h.spotProfiles

end Contents

namespace Store

variable {s : Store} {x : Snapshot}

/-- An import that is repeated leaves the contents as they are, whether it succeeds or fails. -/
theorem Initialised.importSnapshot_layAll (h : (s.layAll x).Initialised)
    (hsound : s.contents.Sound) :
    ((s.layAll x).importSnapshot x).2 = s.layAll x := by
  cases hagain : ((s.layAll x).importSnapshot x).1 with
  | ok summary =>
    rw [(layAll_of_importSnapshot h hagain).2, layAll, layAll, Contents.layAll_layAll hsound]
  | error e => rw [importSnapshot_error hagain, h.init_eq]

/-- After any run that leaves a store initialised, a snapshot that was imported can be imported
    again exactly if it hands over no name of a tag or a spot, and so if it gives every id one
    name only. Whether or not it can, both libraries are loaded as before. -/
theorem importSnapshot_again (steps : List StoreStep) (x : Snapshot) (summary : ImportSummary)
    (s : Store) (hinit : (Store.run {} steps).Initialised)
    (himport : (Store.run {} steps).importSnapshot x = (.ok summary, s)) :
    ((s.importSnapshot x).1 = .ok summary ↔
      ¬ Keyed.HandsOver Tag.id Tag.name x.tags ∧ ¬ Keyed.HandsOver Spot.id Spot.name x.spots) ∧
    ((∀ t ∈ x.tags, ∀ u ∈ x.tags, t.id = u.id → t.name = u.name) →
      (∀ t ∈ x.spots, ∀ u ∈ x.spots, t.id = u.id → t.name = u.name) →
        (s.importSnapshot x).1 = .ok summary) ∧
    (∃ tags, s.loadTags = .ok tags ∧ (s.importSnapshot x).2.loadTags = .ok tags) ∧
    ∃ spots, s.loadSpots = .ok spots ∧ (s.importSnapshot x).2.loadSpots = .ok spots := by
  have hsound := sound_run steps
  have hafter : s.Initialised := by
    have hstep := (Store.run {} steps).initialised_step (.importSnapshot x)
    rw [step, himport] at hstep
    exact hstep
  generalize Store.run {} steps = s₀ at hinit himport hsound
  obtain ⟨haccepts, hsummary, rfl⟩ := hinit.importSnapshot_eq_ok_iff.1 himport
  have hsame := hafter.importSnapshot_layAll hsound
  have hagain : ((s₀.layAll x).importSnapshot x).1 = .ok summary ↔
      ¬ Keyed.HandsOver Tag.id Tag.name x.tags ∧ ¬ Keyed.HandsOver Spot.id Spot.name x.spots := by
    rw [← haccepts.layAll_iff hsound]
    constructor
    · intro hok
      exact (hafter.importSnapshot_eq_ok_iff.1 (Prod.ext hok rfl)).1
    · intro hagain
      exact congrArg Prod.fst (hafter.importSnapshot_eq_ok_iff.2 ⟨hagain, hsummary, rfl⟩)
  have hsoundAfter : (s₀.layAll x).contents.Sound :=
    hsound.layAll (Contents.admitsAll_entries_iff.2 haccepts)
  obtain ⟨profiles, -, hspots⟩ := hafter.exists_loadSpots hsoundAfter
  refine ⟨hagain, fun htags hspots => hagain.2 ⟨?_, ?_⟩, ?_, ?_⟩
  · exact Keyed.not_handsOver haccepts.tags htags
  · exact Keyed.not_handsOver haccepts.spots hspots
  · rw [hsame]
    exact ⟨_, hafter.loadTags, hafter.loadTags⟩
  · rw [hsame]
    exact ⟨_, hspots, hspots⟩

end Store

/-- A snapshot that lists a tag twice, and a profile in two spellings. -/
def Snapshot.listedTwice : Snapshot where
  tags := [{ id := 1, name := "c-bet" },
    { id := 1, name := "c-bet", description := some "continuation bet" }]
  profiles := [⟨"ZOOM 6-MAX", .tournament, .zoom, .six⟩, ⟨"zoom 6-max", .cash, .zoom, .two⟩]

/-- It can be imported again, since the tag has the same name both times. -/
theorem Store.importSnapshot_again_listedTwice :
    ((Store.run {} [.importSnapshot .squeezing, .importSnapshot .listedTwice]).importSnapshot
        .listedTwice).1 = .ok ⟨0, 2, 0, 0, 0, 2⟩ ∧
      ∃ tags,
        (Store.run {} [.importSnapshot .squeezing, .importSnapshot .listedTwice]).loadTags =
          .ok tags ∧
        ((Store.run {} [.importSnapshot .squeezing, .importSnapshot .listedTwice]).importSnapshot
          .listedTwice).2.loadTags = .ok tags := by
  have himport : (Store.run {} [.importSnapshot .squeezing]).importSnapshot .listedTwice =
      (.ok ⟨0, 2, 0, 0, 0, 2⟩,
        Store.run {} [.importSnapshot .squeezing, .importSnapshot .listedTwice]) :=
    Prod.ext (by decide +kernel) rfl
  obtain ⟨-, hnames, htags, -⟩ := importSnapshot_again [.importSnapshot .squeezing] .listedTwice
    ⟨0, 2, 0, 0, 0, 2⟩ _ (initialised_run {} (.importSnapshot .squeezing) []) himport
  exact ⟨hnames (by decide) (by decide), htags⟩

/-- A snapshot in which a tag gives up its name and another tag takes it. -/
def Snapshot.handingOver : Snapshot where
  tags := [{ id := 1, name := "c-bet" }, { id := 1, name := "probe" }, { id := 2, name := "c-bet" }]

/-- It can be imported once and no more. -/
theorem Store.importSnapshot_once :
    (Store.run {} [.init]).Initialised ∧
      ((Store.run {} [.init]).importSnapshot .handingOver).1 = .ok ⟨0, 3, 0, 0, 0, 0⟩ ∧
      (((Store.run {} [.init]).importSnapshot .handingOver).2.importSnapshot .handingOver).1 =
        .error (.failed (.insertTag 1) (.nameTaken .tags)) :=
  ⟨initialised_init _, by decide +kernel, by decide +kernel⟩

end HandStudy
