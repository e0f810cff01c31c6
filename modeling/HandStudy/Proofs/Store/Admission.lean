import HandStudy.Proofs.Store.Merge

/-!
# Which snapshots are admitted

The entries of a snapshot are admitted one by one, each by the contents that those before it
have left. For most entries it comes to the same to ask the contents that all of them leave
(`Contents.admitsAll_entries_iff`): the tables that an entry refers to are written before it,
and nothing is taken from them. Only the names of tags and of spots have to be free in their
turn (`Keyed.FreeInTurn`), since a name may be given up by one row and then taken by another.
-/

namespace HandStudy

/-! ## Names in their turn -/

namespace Keyed

variable {α κ : Type} [DecidableEq κ] {key : α → κ} {name : α → String} {old l : List α}

/-- The name of the row is free: no row with another key has it. -/
def Free (key : α → κ) (name : α → String) (l : List α) (a : α) : Prop :=
  ∀ b ∈ l, name b = name a → key b = key a

variable [LT κ] [DecidableLT κ]

/-- The name of each row is free when those before it have been written. -/
def FreeInTurn (key : α → κ) (name : α → String) (old : List α) : List α → Prop
  | [] => True
  | a :: l => Free key name old a ∧ FreeInTurn key name (put key a old) l

/-- The names are free in their turn if, wherever the list is cut, the next name is free. -/
theorem freeInTurn_iff : FreeInTurn key name old l ↔
    ∀ before a after, l = before ++ a :: after → Free key name (putAll key before old) a := by
  induction l generalizing old with
  | nil => simp [FreeInTurn]
  | cons a l ih =>
    rw [FreeInTurn, ih]
    constructor
    · rintro ⟨ha, hl⟩ before b after hsplit
      cases before with
      | nil =>
        obtain ⟨rfl, -⟩ := List.cons.inj hsplit
        exact ha
      | cons c before =>
        obtain ⟨rfl, hrest⟩ := List.cons.inj hsplit
        exact hl before b after hrest
    · intro h
      refine ⟨h [] a l rfl, fun before b after hsplit => ?_⟩
      exact h (a :: before) b after (by rw [hsplit, List.cons_append])

end Keyed

/-! ## Snapshots -/

namespace Contents

variable {c : Contents} {x : Snapshot} {β : Type}

theorem admitsAll_append {entries entries' : List Entry} :
    c.AdmitsAll (entries ++ entries') ↔
      c.AdmitsAll entries ∧ (c.layAll entries).AdmitsAll entries' := by
  induction entries generalizing c with
  | nil => exact (true_and _).symm.to_iff
  | cons e entries ih =>
    rw [List.cons_append, AdmitsAll, AdmitsAll, ih, and_assoc]
    rfl

/-- Entries of one kind that have no part in what is asked of each other are admitted if
    each of them is. -/
theorem admitsAll_map (entry : β → Entry)
    (hlay : ∀ c a b, (lay c (entry a)).Admits (entry b) ↔ c.Admits (entry b)) {l : List β} :
    c.AdmitsAll (l.map entry) ↔ ∀ b ∈ l, c.Admits (entry b) := by
  induction l generalizing c with
  | nil => simp [AdmitsAll]
  | cons a l ih =>
    rw [List.map_cons, AdmitsAll, ih, List.forall_mem_cons]
    simp only [hlay]

/-- Tags are admitted if their names are free in their turn. -/
theorem admitsAll_tags {l : List Tag} :
    c.AdmitsAll (l.map .tag) ↔ Keyed.FreeInTurn Tag.id Tag.name c.tags l := by
  induction l generalizing c with
  | nil => exact Iff.rfl
  | cons t l ih =>
    rw [List.map_cons, AdmitsAll, ih]
    exact Iff.rfl

/-- Spots are admitted if their names are free in their turn. -/
theorem admitsAll_spots {l : List Spot} :
    c.AdmitsAll (l.map .spot) ↔ Keyed.FreeInTurn Spot.id Spot.name c.spots l := by
  induction l generalizing c with
  | nil => exact Iff.rfl
  | cons s l ih =>
    rw [List.map_cons, AdmitsAll, ih]
    exact Iff.rfl

/-- The names in the snapshot are free in their turn, and what it refers to is there in the
    end. -/
structure Accepts (c : Contents) (x : Snapshot) : Prop where
  tags : Keyed.FreeInTurn Tag.id Tag.name c.tags x.tags
  spots : Keyed.FreeInTurn Spot.id Spot.name c.spots x.spots
  tagDocuments : ∀ l ∈ x.tagDocuments, (c.layAll x.entries).Admits (.tagDocument l)
  tagRules : ∀ r ∈ x.tagRules, (c.layAll x.entries).Admits (.tagRule r)
  spotRules : ∀ r ∈ x.spotRules, (c.layAll x.entries).Admits (.spotRule r)
  spotDocuments : ∀ l ∈ x.spotDocuments, (c.layAll x.entries).Admits (.spotDocument l)
  spotProfiles : ∀ l ∈ x.spotProfiles, (c.layAll x.entries).Admits (.spotProfile l)

/-- The entries of a snapshot are admitted in their turn exactly if the snapshot is accepted. -/
theorem admitsAll_entries_iff : c.AdmitsAll x.entries ↔ c.Accepts x := by
  have hlink (c : Contents) (l m : SpotProfile) :
      (c.lay (.spotProfile l)).Admits (.spotProfile m) ↔ c.Admits (.spotProfile m) := by
    rw [lay, linkProfile]
    cases c.profile? l.profile <;> exact Iff.rfl
  -- What an entry refers to is written before it, and not touched after it.
  simp only [Snapshot.entries, admitsAll_append, layAll_append, layAll_documents, layAll_tags,
    layAll_tagDocuments, layAll_tagRules, layAll_spots, layAll_spotRules, layAll_spotDocuments,
    layAll_profiles, admitsAll_tags, admitsAll_spots,
    admitsAll_map Entry.document (fun _ _ _ => Iff.rfl),
    admitsAll_map Entry.tagDocument (fun _ _ _ => Iff.rfl),
    admitsAll_map Entry.tagRule (fun _ _ _ => Iff.rfl),
    admitsAll_map Entry.spotRule (fun _ _ _ => Iff.rfl),
    admitsAll_map Entry.spotDocument (fun _ _ _ => Iff.rfl),
    admitsAll_map Entry.profile (fun _ _ _ => Iff.rfl),
    admitsAll_map Entry.spotProfile hlink]
  constructor
  · rintro ⟨⟨⟨⟨⟨⟨⟨⟨-, htags⟩, htagDocuments⟩, htagRules⟩, hspots⟩, hspotRules⟩, hspotDocuments⟩, -⟩,
      hspotProfiles⟩
    refine ⟨htags, hspots, ?_, ?_, ?_, ?_, ?_⟩ <;> rw [layAll_entries]
    · exact htagDocuments
    · exact htagRules
    · exact hspotRules
    · exact hspotDocuments
    · exact hspotProfiles
  · rintro ⟨htags, hspots, htagDocuments, htagRules, hspotRules, hspotDocuments, hspotProfiles⟩
    rw [layAll_entries] at htagDocuments htagRules hspotRules hspotDocuments hspotProfiles
    exact ⟨⟨⟨⟨⟨⟨⟨⟨fun _ _ => trivial, htags⟩, htagDocuments⟩, htagRules⟩, hspots⟩, hspotRules⟩,
      hspotDocuments⟩, fun _ _ => trivial⟩, hspotProfiles⟩

end Contents

/-- A snapshot is imported into an initialised store exactly if it is accepted, and then it is
    laid over the store. -/
theorem Store.Initialised.importSnapshot_eq_ok_iff {s s' : Store} (h : s.Initialised)
    {x : Snapshot} {summary : ImportSummary} :
    s.importSnapshot x = (.ok summary, s') ↔
      s.contents.Accepts x ∧ x.summary = summary ∧ s.layAll x = s' := by
  rw [Store.importSnapshot_eq_ok_iff, h.init_eq, Contents.admitsAll_entries_iff]
  exact Iff.rfl

end HandStudy
