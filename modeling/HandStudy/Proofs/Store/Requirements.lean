import HandStudy.Proofs.Store.Admission

/-!
# What a snapshot requires

Whether a snapshot can be imported is said without its import: by the names and ids that are
listed in the store and in the snapshot itself (`Snapshot.FitsInto`). Ids that the snapshot
refers to may be listed in either, wherever in the list. Names are different: a tag or spot needs
its name when it is written, so it matters which rows have been written over before it
(`Keyed.NamesInTurn`). A chain of names that are passed on is accepted in one order only. The
profile of a link is the one that the store finds under its name, which need not be spelled like
it beyond a zero character.

A snapshot that lists every tag and every spot once is imported exactly if it fits, and otherwise
the first entry that is refused gives the error (`Store.importSnapshot_fits_iff`).
-/

namespace HandStudy

/-! ## Rows that were written -/

namespace Keyed

variable {α κ : Type} [DecidableEq κ] {key : α → κ} {name : α → String} {old new : List α}

/-- Each new row can take its name in its turn. No new row before it has the name; and an old row
    that has it is the same row as it was, or was written over before. -/
def NamesInTurn (key : α → κ) (name : α → String) (old new : List α) : Prop :=
  ∀ before a after, new = before ++ a :: after →
    (∀ b ∈ before, name b ≠ name a) ∧
    ∀ b ∈ old, name b = name a → key b = key a ∨ ∃ c ∈ before, key c = key b

variable [LT κ] [DecidableLT κ]

/-- A key is in use after some rows were written if it was before or one of them has it. -/
theorem has_putAll {k : κ} :
    has key (putAll key new old) k ↔ ∃ a ∈ old ++ new, key a = k := by
  have hfound (l : List α) : (get? key l k).isSome ↔ ∃ a ∈ l, key a = k := by
    simp [get?]
  have hrow : has key (putAll key new old) k ↔ (get? key (putAll key new old) k).isSome := by
    rw [hfound, has_iff]
  rw [hrow, get?_putAll, Option.isSome_or, Bool.or_eq_true, last?, hfound, hfound]
  simp only [List.mem_append, List.mem_reverse, or_and_right, exists_or]
  exact or_comm

variable [IsStrictTotalOrder κ (· < ·)]

/-- After rows of different keys were written, they are there and the old ones of other keys. -/
theorem Sorted.mem_putAll (hold : Sorted key old) (hnew : (new.map key).Nodup) {a : α} :
    a ∈ Keyed.putAll key new old ↔ a ∈ new ∨ a ∈ old ∧ ∀ b ∈ new, key b ≠ key a := by
  induction new generalizing old with
  | nil => simp [Keyed.putAll]
  | cons n new ih =>
    obtain ⟨hn, hnew⟩ := List.nodup_cons.1 hnew
    have hn : ∀ b ∈ new, key b ≠ key n := fun b hb he => hn (he ▸ List.mem_map_of_mem hb)
    have hcons : Keyed.putAll key (n :: new) old = Keyed.putAll key new (Keyed.put key n old) := rfl
    rw [hcons, ih (hold.put n) hnew, hold.mem_put, List.mem_cons, List.forall_mem_cons]
    constructor
    · rintro (ha | ⟨rfl | ⟨hne, ha⟩, hkey⟩)
      · exact .inl (.inr ha)
      · exact .inl (.inl rfl)
      · exact .inr ⟨ha, Ne.symm hne, hkey⟩
    · rintro ((rfl | ha) | ⟨ha, hne, hkey⟩)
      · exact .inr ⟨.inl rfl, hn⟩
      · exact .inl ha
      · exact .inr ⟨.inr ⟨Ne.symm hne, ha⟩, hkey⟩

/-- If no key is listed twice, the names are free in their turn exactly if each row can take its
    own. -/
theorem freeInTurn_iff_namesInTurn (hold : Sorted key old) (hnew : (new.map key).Nodup) :
    FreeInTurn key name old new ↔ NamesInTurn key name old new := by
  rw [freeInTurn_iff, NamesInTurn]
  refine forall_congr' fun before => forall_congr' fun a => forall_congr' fun after =>
    forall_congr' fun hsplit => ?_
  -- The keys of the rows before are different, and none of them is that of the row itself.
  rw [hsplit, List.map_append, List.map_cons, List.nodup_append] at hnew
  obtain ⟨hbefore, -, hother⟩ := hnew
  have hother : ∀ b ∈ before, key b ≠ key a := fun b hb =>
    hother _ (List.mem_map_of_mem hb) _ List.mem_cons_self
  rw [Free]
  simp only [hold.mem_putAll hbefore]
  constructor
  · intro hfree
    refine ⟨fun b hb hname => hother b hb (hfree b (.inl hb) hname), fun b hb hname => ?_⟩
    by_cases hover : ∃ c ∈ before, key c = key b
    · exact .inr hover
    · exact .inl (hfree b (.inr ⟨hb, fun c hc he => hover ⟨c, hc, he⟩⟩) hname)
  · rintro ⟨hnames, hrows⟩ b (hb | ⟨hb, hkept⟩) hname
    · exact absurd hname (hnames b hb)
    · refine (hrows b hb hname).resolve_right ?_
      rintro ⟨c, hc, he⟩
      exact hkept c hc he

end Keyed

/-- A profile answers to a name after some were written if one of them does or one did before. -/
theorem Contents.isSome_find?_foldl_putRow {rows : List StoredProfile} {new : List Profile}
    {n : String} :
    ((new.foldl putRow rows).find? (·.isNamed n)).isSome ↔
      ∃ m ∈ rows.map StoredProfile.name ++ new.map Profile.name, Text.sameKey m n := by
  have hfound (rows : List StoredProfile) : (rows.find? (·.isNamed n)).isSome ↔
      ∃ m ∈ rows.map StoredProfile.name, Text.sameKey m n := by
    simp [List.find?_isSome, StoredProfile.isNamed]
  induction new generalizing rows with
  | nil => simp only [List.foldl_nil, List.map_nil, List.append_nil, hfound]
  | cons p new ih =>
    rw [List.foldl_cons]
    refine ih.trans ?_
    rw [putRow_eq]
    split
    -- A row that has the name already answers to whatever the new profile answers to.
    · rename_i hp
      obtain ⟨q, hq, hqp⟩ := List.find?_isSome.1 hp
      have hnames : (rows.map (StoredProfile.reformat p)).map StoredProfile.name =
          rows.map StoredProfile.name := by
        rw [List.map_map]
        exact List.map_congr_left fun r _ => r.reformat_name p
      rw [hnames, List.map_cons]
      constructor
      · rintro ⟨m, hm, hmn⟩
        exact ⟨m, by simp only [List.mem_append, List.mem_cons] at hm ⊢; tauto, hmn⟩
      · rintro ⟨m, hm, hmn⟩
        simp only [List.mem_append, List.mem_cons] at hm ⊢
        rcases hm with hm | rfl | hm
        · exact ⟨m, .inl hm, hmn⟩
        · exact ⟨q.name, .inl (List.mem_map_of_mem hq), by rw [Text.sameKey_congr hqp, hmn]⟩
        · exact ⟨m, .inr hm, hmn⟩
    · have hname (i : Nat) : (StoredProfile.ofProfile i p).name = p.name := rfl
      simp [hname]

/-! ## Snapshots that fit -/

/-- What a snapshot requires of the contents of a store. Its tags and spots can take their names
    in their turn, and what its links and rules refer to is listed in the store or in the snapshot
    itself; a profile may be a default one, and is meant by a name that is the same to the store. -/
structure Snapshot.FitsInto (x : Snapshot) (c : Contents) : Prop where
  tags : Keyed.NamesInTurn Tag.id Tag.name c.tags x.tags
  spots : Keyed.NamesInTurn Spot.id Spot.name c.spots x.spots
  tagDocuments : ∀ l ∈ x.tagDocuments,
    (∃ d ∈ c.documents ++ x.documents, d.id = l.document) ∧ ∃ t ∈ c.tags ++ x.tags, t.id = l.tag
  tagRules : ∀ r ∈ x.tagRules, ∃ t ∈ c.tags ++ x.tags, t.id = r.tag
  spotRules : ∀ r ∈ x.spotRules, ∃ s ∈ c.spots ++ x.spots, s.id = r.spot
  spotDocuments : ∀ l ∈ x.spotDocuments,
    (∃ s ∈ c.spots ++ x.spots, s.id = l.spot) ∧ ∃ d ∈ c.documents ++ x.documents, d.id = l.document
  spotProfiles : ∀ l ∈ x.spotProfiles,
    (∃ s ∈ c.spots ++ x.spots, s.id = l.spot) ∧
      ∃ n ∈ c.profiles.map StoredProfile.name ++ x.profiles.map Profile.name ++
        Profile.defaults.map Profile.name, Text.sameKey n l.profile

namespace Contents

variable {c : Contents} {x : Snapshot} {i : Int64}

theorem hasDocument_layAll :
    (c.layAll x.entries).hasDocument i ↔ ∃ d ∈ c.documents ++ x.documents, d.id = i := by
  rw [layAll_entries, hasDocument]
  exact Keyed.has_putAll

theorem hasTag_layAll : (c.layAll x.entries).hasTag i ↔ ∃ t ∈ c.tags ++ x.tags, t.id = i := by
  rw [layAll_entries, hasTag]
  exact Keyed.has_putAll

theorem hasSpot_layAll : (c.layAll x.entries).hasSpot i ↔ ∃ s ∈ c.spots ++ x.spots, s.id = i := by
  rw [layAll_entries, hasSpot]
  exact Keyed.has_putAll

/-- Where the default profiles are kept they need not be looked for among the profiles. -/
theorem isSome_profile?_layAll_iff (hdefaults : ∀ p ∈ Profile.defaults, (c.profile? p.name).isSome)
    {n : String} :
    ((c.layAll x.entries).profile? n).isSome ↔
      ∃ m ∈ c.profiles.map StoredProfile.name ++ x.profiles.map Profile.name ++
        Profile.defaults.map Profile.name, Text.sameKey m n := by
  rw [layAll_entries, profile?, isSome_find?_foldl_putRow]
  constructor
  · rintro ⟨m, hm, hmn⟩
    exact ⟨m, List.mem_append_left _ hm, hmn⟩
  · rintro ⟨m, hm, hmn⟩
    rcases List.mem_append.1 hm with hm | hm
    · exact ⟨m, hm, hmn⟩
    · obtain ⟨p, hp, rfl⟩ := List.mem_map.1 hm
      obtain ⟨q, hq⟩ := Option.isSome_iff_exists.1 (hdefaults p hp)
      have hname : q.name ∈ c.profiles.map StoredProfile.name :=
        List.mem_map_of_mem (mem_of_profile? hq)
      exact ⟨q.name, List.mem_append_left _ hname, by
        rw [Text.sameKey_congr (isNamed_of_profile? hq), hmn]⟩

/-- A snapshot that lists every tag and every spot once is accepted exactly if it fits. -/
theorem accepts_iff_fitsInto (hsound : c.Sound)
    (hdefaults : ∀ p ∈ Profile.defaults, (c.profile? p.name).isSome)
    (htags : (x.tags.map Tag.id).Nodup) (hspots : (x.spots.map Spot.id).Nodup) :
    c.Accepts x ↔ x.FitsInto c := by
  constructor
  · intro h
    refine ⟨(Keyed.freeInTurn_iff_namesInTurn hsound.tags htags).1 h.tags,
      (Keyed.freeInTurn_iff_namesInTurn hsound.spots hspots).1 h.spots,
      fun l hl => ?_, fun r hr => ?_, fun r hr => ?_, fun l hl => ?_, fun l hl => ?_⟩
    · exact (h.tagDocuments l hl).imp hasDocument_layAll.1 hasTag_layAll.1
    · exact hasTag_layAll.1 (h.tagRules r hr)
    · exact hasSpot_layAll.1 (h.spotRules r hr)
    · exact (h.spotDocuments l hl).imp hasSpot_layAll.1 hasDocument_layAll.1
    · exact (h.spotProfiles l hl).symm.imp hasSpot_layAll.1
        (isSome_profile?_layAll_iff hdefaults).1
  · intro h
    refine ⟨(Keyed.freeInTurn_iff_namesInTurn hsound.tags htags).2 h.tags,
      (Keyed.freeInTurn_iff_namesInTurn hsound.spots hspots).2 h.spots,
      fun l hl => ?_, fun r hr => ?_, fun r hr => ?_, fun l hl => ?_, fun l hl => ?_⟩
    · exact (h.tagDocuments l hl).imp hasDocument_layAll.2 hasTag_layAll.2
    · exact hasTag_layAll.2 (h.tagRules r hr)
    · exact hasSpot_layAll.2 (h.spotRules r hr)
    · exact (h.spotDocuments l hl).imp hasSpot_layAll.2 hasDocument_layAll.2
    · exact ((h.spotProfiles l hl).imp hasSpot_layAll.2
        (isSome_profile?_layAll_iff hdefaults).2).symm

end Contents

/-! ## Entries that are refused -/

/-- A transaction fails with the error of the first entry that is not admitted. -/
theorem Transaction.writeAll_error {t : Transaction} {entries : List Entry} {error : StoreError}
    (h : (t.writeAll entries).1 = .error error) :
    ∃ before e after, entries = before ++ e :: after ∧ t.current.AdmitsAll before ∧
      (t.current.layAll before).write e = .error error := by
  induction entries generalizing t with
  | nil => cases h
  | cons e entries ih =>
    rw [writeAll, write] at h
    cases hw : t.current.write e with
    | error error' =>
      rw [hw] at h
      obtain rfl := Except.error.inj h
      exact ⟨[], e, entries, rfl, trivial, hw⟩
    | ok c =>
      rw [hw] at h
      obtain ⟨hadmits, rfl⟩ := Contents.write_eq_ok_iff.1 hw
      obtain ⟨before, e', after, rfl, hbefore, herror⟩ := ih h
      exact ⟨e :: before, e', after, rfl, ⟨hadmits, hbefore⟩, herror⟩

namespace Store

/-- After any run that leaves a store initialised, a snapshot that lists every tag and every spot
    once is imported exactly if it fits into the store. If it does not, the first of its entries
    that is refused by the contents that those before it have left is the error, and the store
    stays as it is. -/
theorem importSnapshot_fits_iff (steps : List StoreStep) (x : Snapshot)
    (hinit : (Store.run {} steps).Initialised) (htags : (x.tags.map Tag.id).Nodup)
    (hspots : (x.spots.map Spot.id).Nodup) :
    ((∃ summary, ((Store.run {} steps).importSnapshot x).1 = .ok summary) ↔
      x.FitsInto (Store.run {} steps).contents) ∧
    (¬ x.FitsInto (Store.run {} steps).contents →
      ∃ before e after error, x.entries = before ++ e :: after ∧
        (Store.run {} steps).contents.AdmitsAll before ∧
        ((Store.run {} steps).contents.layAll before).write e = .error error ∧
        (Store.run {} steps).importSnapshot x = (.error error, Store.run {} steps)) := by
  have hsound := sound_run steps
  generalize Store.run {} steps = s at hinit hsound ⊢
  have hfits := Contents.accepts_iff_fitsInto (x := x) hsound hinit.profiles htags hspots
  have hok : (∃ summary, (s.importSnapshot x).1 = .ok summary) ↔ x.FitsInto s.contents := by
    rw [← hfits]
    constructor
    · rintro ⟨summary, h⟩
      exact (hinit.importSnapshot_eq_ok_iff.1 (Prod.ext h rfl)).1
    · intro h
      exact ⟨x.summary, congrArg Prod.fst (hinit.importSnapshot_eq_ok_iff.2 ⟨h, rfl, rfl⟩)⟩
  refine ⟨hok, fun hnot => ?_⟩
  cases h : (s.importSnapshot x).1 with
  | ok summary => exact absurd (hok.1 ⟨summary, h⟩) hnot
  | error error =>
    have hstore : (s.importSnapshot x).2 = s := by
      rw [importSnapshot_error h, hinit.init_eq]
    have hwrite : ((Transaction.start s.contents).writeAll x.entries).1 = .error error := by
      rw [importSnapshot, hinit.init_eq] at h
      generalize (Transaction.start s.contents).writeAll x.entries = written at h ⊢
      obtain ⟨result, t⟩ := written
      cases result with
      | ok => cases h
      | error e => exact congrArg Except.error (Except.error.inj h)
    obtain ⟨before, e, after, hsplit, hadmits, herror⟩ := Transaction.writeAll_error hwrite
    exact ⟨before, e, after, error, hsplit, hadmits, herror, Prod.ext h hstore⟩

end Store

/-- A snapshot of a tag with a rule, and a spot of a default profile. -/
def Snapshot.betting : Snapshot where
  tags := [{ id := 1, name := "c-bet" }]
  tagRules := [{ id := 4, tag := 1 }]
  spots := [{ id := 1, name := "Squeeze" }]
  spotProfiles := [⟨1, "ZOOM 9-max"⟩]

/-- A snapshot in which one tag gives up a name before another takes it. -/
def Snapshot.passingOn : Snapshot where
  tags := [{ id := 1, name := "probe" }, { id := 2, name := "c-bet" }]

/-- The same in the other order. -/
def Snapshot.takingAway : Snapshot where
  tags := [{ id := 2, name := "c-bet" }, { id := 1, name := "probe" }]

/-- A name can be passed on, and cannot be taken away. -/
theorem Store.importSnapshot_fits_iff_chain :
    Snapshot.betting.FitsInto (Store.run {} [.init]).contents ∧
      Snapshot.passingOn.FitsInto (Store.run {} [.importSnapshot .betting]).contents ∧
      ¬Snapshot.takingAway.FitsInto (Store.run {} [.importSnapshot .betting]).contents ∧
      ∃ e, ((Store.run {} [.importSnapshot .betting]).importSnapshot .takingAway).1 = .error e := by
  have hinit : (Store.run {} [.importSnapshot .betting]).Initialised :=
    initialised_run {} (.importSnapshot .betting) []
  obtain ⟨hbetting, -⟩ := importSnapshot_fits_iff [.init] .betting (initialised_init {})
    (by decide) (by decide)
  obtain ⟨hpassing, -⟩ := importSnapshot_fits_iff [.importSnapshot .betting] .passingOn hinit
    (by decide) (by decide)
  obtain ⟨htaking, hrefused⟩ := importSnapshot_fits_iff [.importSnapshot .betting] .takingAway hinit
    (by decide) (by decide)
  have hnot : ¬Snapshot.takingAway.FitsInto (Store.run {} [.importSnapshot .betting]).contents := by
    rw [← htaking]
    rintro ⟨summary, h⟩
    have herror : ((Store.run {} [.importSnapshot .betting]).importSnapshot .takingAway).1 =
        .error (.failed (.insertTag 2) (.nameTaken .tags)) := by decide +kernel
    exact nomatch herror.symm.trans h
  obtain ⟨-, -, -, error, -, -, -, herror⟩ := hrefused hnot
  exact ⟨hbetting.1 ⟨⟨0, 1, 1, 1, 0, 0⟩, by decide +kernel⟩,
    hpassing.1 ⟨⟨0, 2, 0, 0, 0, 0⟩, by decide +kernel⟩, hnot, error, congrArg Prod.fst herror⟩

/-- A snapshot with a link to a profile that is spelled otherwise after a zero character. -/
def Snapshot.cutShort : Snapshot where
  spots := [{ id := 1, name := "Squeeze" }]
  profiles := [⟨"A\x00B", .cash, .zoom, .six⟩]
  spotProfiles := [⟨1, "A\x00C"⟩]

/-- It is imported, although no profile is named like that but for the case of the letters. -/
theorem Store.importSnapshot_cutShort :
    (Store.run {} [.init]).Initialised ∧
      (Snapshot.cutShort.tags.map Tag.id).Nodup ∧ (Snapshot.cutShort.spots.map Spot.id).Nodup ∧
      (∃ l ∈ Snapshot.cutShort.spotProfiles,
        ∀ n ∈ (Store.run {} [.init]).contents.profiles.map StoredProfile.name ++
            Snapshot.cutShort.profiles.map Profile.name ++ Profile.defaults.map Profile.name,
          ¬ Text.sameLetters n l.profile) ∧
      ((Store.run {} [.init]).importSnapshot .cutShort).1 = .ok ⟨0, 0, 0, 1, 0, 1⟩ :=
  ⟨initialised_init _, by decide, by decide, by decide +kernel, by decide +kernel⟩

end HandStudy
