import HandStudy.Proofs.Resolution

/-!
# Resolution among the spots of a profile

A spot belongs to a profile if it is linked to the name of the profile, in any spelling
(`SpotLibrary.Belongs`). To look for the spot of a hand in a profile is to look for it in the
library that has the spots of the profile only, and what is found is found there among fewer
spots that fit (`SpotLibrary.Narrows`): nothing comes in that did not fit before, and what was
the only spot stays so or is gone.
-/

namespace HandStudy.SpotLibrary

variable {l : SpotLibrary} {n : String}

/-- A spot belongs to the profile of a name: it is linked to the name, in any spelling. -/
def Belongs (l : SpotLibrary) (n : String) (s : Spot) : Prop :=
  ∃ k ∈ l.profileLinks, k.spot = s.id ∧ Text.sameLetters k.profile n

instance decidableBelongs (l : SpotLibrary) (n : String) (s : Spot) : Decidable (l.Belongs n s) :=
  inferInstanceAs (Decidable (∃ k ∈ l.profileLinks, _))

/-- The library with the spots of a profile only. -/
def within (l : SpotLibrary) (n : String) : SpotLibrary :=
  { l with spots := l.spots.filter (l.Belongs n ·) }

theorem spotsFor_eq_filter (l : SpotLibrary) (n : String) :
    l.spotsFor n = l.spots.filter (l.Belongs n ·) := by
  refine List.filter_congr fun s _ => ?_
  rw [Bool.eq_iff_iff, List.any_eq_true, decide_eq_true_eq]
  simp [Belongs]

theorem profile?_eq_none_iff :
    l.profile? n = none ↔ ∀ p ∈ l.profiles, ¬ Text.sameLetters p.name n :=
  List.find?_eq_none

theorem profile?_congr {m : String} (h : Text.sameLetters m n) :
    l.profile? m = l.profile? n := by
  have hname (p : Profile) : p.isNamed m = p.isNamed n := by
    rw [Profile.isNamed, Profile.isNamed, Text.sameLetters_comm p.name m,
      Text.sameLetters_comm p.name n, Text.sameLetters_congr h]
  simp only [profile?, hname]

/-! ## Fewer spots that fit -/

/-- How the answer about some of the spots is related to the answer about all of them. -/
structure Narrows (kept : Spot → Prop) (narrow wide : Except SpotError (Option Spot)) : Prop where
  none : wide = .ok none → narrow = .ok none
  found : ∀ s, wide = .ok (some s) →
    kept s ∧ narrow = .ok (some s) ∨ ¬ kept s ∧ narrow = .ok Option.none
  ambiguous : ∀ names, narrow = .error (.ambiguous names) →
    ∃ all, wide = .error (.ambiguous all) ∧ names.Sublist all
  named : ∀ s all, narrow = .ok (some s) → wide = .error (.ambiguous all) → s.name ∈ all

theorem answerFor_eq_none_iff {spots : List Spot} : answerFor spots = .ok none ↔ spots = [] := by
  rcases spots with _ | ⟨s, _ | ⟨t, spots⟩⟩ <;> simp [answerFor]

theorem answerFor_eq_some_iff {spots : List Spot} {s : Spot} :
    answerFor spots = .ok (some s) ↔ spots = [s] := by
  rcases spots with _ | ⟨t, _ | ⟨u, spots⟩⟩ <;> simp [answerFor]

theorem answerFor_eq_ambiguous_iff {spots : List Spot} {names : List String} :
    answerFor spots = .error (.ambiguous names) ↔
      2 ≤ spots.length ∧ spots.map Spot.name = names := by
  rcases spots with _ | ⟨t, _ | ⟨u, spots⟩⟩ <;> simp [answerFor]

theorem narrows_filter (kept : Spot → Prop) [DecidablePred kept] (spots : List Spot) :
    Narrows kept (answerFor (spots.filter (kept ·))) (answerFor spots) where
  none h := by
    rw [answerFor_eq_none_iff.1 h]
    rfl
  found s h := by
    rw [answerFor_eq_some_iff.1 h]
    by_cases hs : kept s
    · exact .inl ⟨hs, by simp [hs, answerFor]⟩
    · exact .inr ⟨hs, by simp [hs, answerFor]⟩
  ambiguous names h := by
    obtain ⟨hseveral, rfl⟩ := answerFor_eq_ambiguous_iff.1 h
    refine ⟨spots.map Spot.name, answerFor_eq_ambiguous_iff.2 ⟨?_, rfl⟩,
      List.filter_sublist.map Spot.name⟩
    exact hseveral.trans (List.length_filter_le _ _)
  named s all hs hall := by
    obtain ⟨-, rfl⟩ := answerFor_eq_ambiguous_iff.1 hall
    have hmem : s ∈ spots.filter (kept ·) := mem_of_answerFor_eq_some hs
    exact List.mem_map_of_mem (List.mem_of_mem_filter hmem)

/-! ## Resolution in a profile -/

theorem resolveIn_of_unknown (h : l.profile? n = none) (hand : Hand) :
    (l.resolveIn n hand).value = .error (.unknownProfile n) := by
  rw [resolveIn, h]
  rfl

/-- Of the spots of a profile those fit that fit among all spots. -/
theorem fitting_within (l : SpotLibrary) (n : String) (hand : Hand) :
    (l.within n).fitting hand = (l.fitting hand).filter (l.Belongs n ·) := by
  rw [fitting, fitting, within, List.filter_filter, List.filter_filter]
  simp only [Bool.and_comm]
  rfl

theorem resolve_within (l : SpotLibrary) (n : String) (hand : Hand) :
    ((l.within n).resolve hand).value =
      answerFor ((l.fitting hand).filter (l.Belongs n ·)) := by
  rw [resolve_value, fitting_within]

/-- The answer about a profile that the library knows is determined by those of the spots that
    fit which belong to it. -/
theorem resolveIn_of_known {p : Profile} (hp : l.profile? n = some p) (hand : Hand) :
    (l.resolveIn n hand).value = answerFor ((l.fitting hand).filter (l.Belongs n ·)) := by
  rw [resolveIn_value hp, spotsFor_eq_filter, ← fitting_within]
  rfl

/-- A profile that no spelling of a name leads to is an error of its own. In any other one a hand
    is resolved among the spots that belong to it, with an answer that narrows the one among all
    spots. The spelling of the name does not matter, but that an error repeats it. -/
theorem resolveIn_narrows (l : SpotLibrary) (n : String) (hand : Hand) :
    (∀ m, (l.resolveIn n hand).value = .error (.unknownProfile m) ↔
      m = n ∧ ∀ p ∈ l.profiles, ¬ Text.sameLetters p.name n) ∧
    ((∃ p ∈ l.profiles, Text.sameLetters p.name n) →
      (l.resolveIn n hand).value = ((l.within n).resolve hand).value ∧
      Narrows (l.Belongs n) (l.resolveIn n hand).value (l.resolve hand).value) ∧
    ∀ m, Text.sameLetters m n →
      (l.resolveIn m hand).value = (l.resolveIn n hand).value ∨
      (l.resolveIn m hand).value = .error (.unknownProfile m) ∧
        (l.resolveIn n hand).value = .error (.unknownProfile n) := by
  cases hp : l.profile? n with
  | none =>
    have hunknown := profile?_eq_none_iff.1 hp
    have hvalue := resolveIn_of_unknown hp hand
    refine ⟨fun m => ?_, fun ⟨p, hmem, hname⟩ => absurd hname (hunknown p hmem), fun m hm => ?_⟩
    · rw [hvalue]
      constructor
      · intro h
        obtain rfl := SpotError.unknownProfile.inj (Except.error.inj h)
        exact ⟨rfl, hunknown⟩
      · rintro ⟨rfl, -⟩
        rfl
    · exact .inr ⟨resolveIn_of_unknown ((profile?_congr hm).trans hp) hand, hvalue⟩
  | some p =>
    have hvalue := resolveIn_of_known hp hand
    have hknown : ¬ ∀ p ∈ l.profiles, ¬ Text.sameLetters p.name n := by
      rw [← profile?_eq_none_iff, hp]
      exact Option.some_ne_none p
    refine ⟨fun m => ?_, fun _ => ⟨?_, ?_⟩, fun m hm => .inl ?_⟩
    · rw [hvalue]
      exact ⟨fun h => absurd h answerFor_ne_unknownProfile, fun h => absurd h.2 hknown⟩
    · rw [hvalue, resolve_within]
    · rw [hvalue, resolve_value]
      exact narrows_filter (l.Belongs n) (l.fitting hand)
    · have hm' := (profile?_congr hm).trans hp
      rw [resolveIn_value hp, resolveIn_value hm', l.spotsFor_congr hm]

/-- Overlapping spots, of which one is linked to a profile, twice and in two spellings, and
    another to a profile that the library does not know. -/
def profiled : SpotLibrary :=
  { overlapping with
    profiles := [⟨"Zoom 6-max", .cash, .zoom, .six⟩]
    profileLinks := [⟨2, "ZOOM 6-max"⟩, ⟨2, "zoom 6-MAX"⟩, ⟨1, "Spingo"⟩] }

/-- Of the two spots that fit the hand the one of the profile is found, by any spelling. -/
theorem resolveIn_narrows_profiled :
    (profiled.resolve openedHand).value = .error (.ambiguous ["BTN vs BB", "CO vs BB"]) ∧
    (profiled.resolveIn "zoom 6-max" openedHand).value = .ok (some ⟨2, "CO vs BB", none⟩) ∧
    (profiled.resolveIn "zoom 6-max" openedHand).value =
      ((profiled.within "zoom 6-max").resolve openedHand).value ∧
    Narrows (profiled.Belongs "zoom 6-max") (profiled.resolveIn "zoom 6-max" openedHand).value
      (profiled.resolve openedHand).value ∧
    (profiled.resolveIn "ZOOM 6-MAX" openedHand).value =
      (profiled.resolveIn "zoom 6-max" openedHand).value ∧
    (profiled.resolveIn "Spingo" openedHand).value = .error (.unknownProfile "Spingo") := by
  have hfound : (profiled.resolveIn "zoom 6-max" openedHand).value =
      .ok (some ⟨2, "CO vs BB", none⟩) := by
    decide +kernel
  obtain ⟨-, hknown, hspelling⟩ := resolveIn_narrows profiled "zoom 6-max" openedHand
  obtain ⟨hwithin, hnarrows⟩ := hknown ⟨_, List.mem_cons_self, by decide +kernel⟩
  refine ⟨by decide +kernel, hfound, hwithin, hnarrows, ?_, ?_⟩
  · refine (hspelling "ZOOM 6-MAX" (by decide +kernel)).resolve_right fun h => ?_
    rw [hfound] at h
    cases h.2
  · exact ((resolveIn_narrows profiled "Spingo" openedHand).1 "Spingo").2
      ⟨rfl, by decide +kernel⟩

end HandStudy.SpotLibrary
