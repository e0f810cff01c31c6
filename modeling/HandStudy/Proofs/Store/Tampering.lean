import HandStudy.Proofs.Store.Interchange
import HandStudy.Store.Tampering

/-!
# Overwritten parameters

The parameters of a condition are text, and any text may be put in their place behind the
store's back. Two readers look at it: one takes for null what is no JSON (`Json.readWhole` says
what is), the other takes for a condition that never holds what is not the parameters of one. So
the library of spots is loaded all the same, with other parameters for this one condition
(`Store.loadSpots_setParameters`). Only the spot of the condition is affected
(`SpotLibrary.Alone.fits_withParameters_of_ne`). It fits if the new condition holds and the
others of the spot do (`SpotLibrary.Alone.fits_withParameters_iff`).
-/

namespace HandStudy

/-! ## Conditions with other parameters -/

/-- What is read as the parameters of a condition: null if the text is no JSON. -/
def StoredCondition.readParameters (text : String) : Json :=
  ((Json.readWhole text).map Json.canonical).getD .null

namespace SpotRule

variable {r : SpotRule} {h : Hand}

/-- The condition with other parameters. -/
def withParameters (r : SpotRule) (v : Json) : SpotRule :=
  { r with parameters := v }

@[simp] theorem withParameters_id (r : SpotRule) (v : Json) : (r.withParameters v).id = r.id := rfl

@[simp] theorem withParameters_spot (r : SpotRule) (v : Json) :
    (r.withParameters v).spot = r.spot := rfl

/-- Null is not the parameters of a condition. -/
theorem not_holds_null : ¬(r.withParameters .null).Holds h := by
  rintro ⟨-, street, pattern, hdecode, -⟩
  cases hdecode

/-- A condition with the parameters that a text is read as holds exactly if it is one about
    actions, the text is JSON, and this can be decoded to a street and the actions on it. -/
theorem holds_readParameters_iff {text : String} :
    (r.withParameters (StoredCondition.readParameters text)).Holds h ↔
      r.kind = "action_sequence" ∧ ∃ w, Json.readWhole text = some w ∧ ∃ street pattern,
        SpotCondition.actionsRecord.decode w.canonical = .ok (street, pattern) ∧
          h.sequence street = pattern := by
  rw [StoredCondition.readParameters]
  cases hread : Json.readWhole text with
  | none =>
    refine iff_of_false not_holds_null ?_
    rintro ⟨-, w, hw, -⟩
    cases hw
  | some w =>
    refine and_congr_right fun _ => ?_
    constructor
    · intro hholds
      exact ⟨w, rfl, hholds⟩
    · rintro ⟨w', hw', hholds⟩
      obtain rfl := Option.some.inj hw'
      exact hholds

end SpotRule

namespace SpotLibrary

variable {l : SpotLibrary} {r q : SpotRule} {v : Json} {h : Hand} {s : Spot}

/-- The library with other parameters for the condition of an id. -/
def withParameters (l : SpotLibrary) (id : Int64) (v : Json) : SpotLibrary :=
  { l with rules := l.rules.map fun r => if r.id = id then r.withParameters v else r }

/-- A condition has an id of its own. -/
def Alone (l : SpotLibrary) (r : SpotRule) : Prop :=
  r ∈ l.rules ∧ ∀ q ∈ l.rules, q.id = r.id → q = r

/-- The conditions are the new one and those of other ids. -/
theorem Alone.mem_rules_withParameters (hr : l.Alone r) :
    q ∈ (l.withParameters r.id v).rules ↔
      q = r.withParameters v ∨ q ∈ l.rules ∧ q.id ≠ r.id := by
  obtain ⟨hmem, hunique⟩ := hr
  rw [withParameters, List.mem_map]
  constructor
  · rintro ⟨p, hp, rfl⟩
    split
    case isTrue hid => exact .inl (by rw [hunique p hp hid])
    case isFalse hid => exact .inr ⟨hp, hid⟩
  · rintro (rfl | ⟨hq, hid⟩)
    · exact ⟨r, hmem, if_pos rfl⟩
    · exact ⟨q, hq, if_neg hid⟩

/-- Other spots fit as before. -/
theorem Alone.fits_withParameters_of_ne (hr : l.Alone r) (hs : s.id ≠ r.spot) :
    (l.withParameters r.id v).Fits h s ↔ l.Fits h s := by
  refine fits_congr fun q hq => ?_
  rw [hr.mem_rules_withParameters]
  constructor
  · rintro (rfl | ⟨hmem, -⟩)
    · exact absurd hq.symm hs
    · exact hmem
  · intro hmem
    refine .inr ⟨hmem, fun hid => hs ?_⟩
    rw [← hq, hr.2 q hmem hid]

/-- The spot of the condition fits if the new condition holds, and the other ones of the spot
    do. -/
theorem Alone.fits_withParameters_iff (hr : l.Alone r) (hs : s.id = r.spot) :
    (l.withParameters r.id v).Fits h s ↔ (r.withParameters v).Holds h ∧
      ∀ q ∈ l.rules, q.spot = r.spot → q.id ≠ r.id → q.Holds h := by
  rw [Fits, hs]
  constructor
  · rintro ⟨-, hall⟩
    refine ⟨hall _ (hr.mem_rules_withParameters.2 (.inl rfl)) rfl, fun q hq hspot hid => ?_⟩
    exact hall q (hr.mem_rules_withParameters.2 (.inr ⟨hq, hid⟩)) hspot
  · rintro ⟨hnew, hothers⟩
    refine ⟨⟨_, hr.mem_rules_withParameters.2 (.inl rfl), rfl⟩, fun q hq hspot => ?_⟩
    rcases hr.mem_rules_withParameters.1 hq with rfl | ⟨hmem, hid⟩
    · exact hnew
    · exact hothers q hmem hspot hid

/-- If the new condition does not hold, the spots that fit are those that did, without the one
    of the condition. -/
theorem Alone.filter_fits_withParameters (hr : l.Alone r) (hnot : ¬(r.withParameters v).Holds h)
    (spots : List Spot) :
    spots.filter ((l.withParameters r.id v).Fits h ·) =
      (spots.filter (l.Fits h ·)).filter (·.id ≠ r.spot) := by
  rw [List.filter_filter]
  refine List.filter_congr fun s _ => ?_
  by_cases hs : s.id = r.spot
  · have hnew : ¬(l.withParameters r.id v).Fits h s := fun hf =>
      hnot ((hr.fits_withParameters_iff hs).1 hf).1
    simp [hs, hnew]
  · simp [hs, hr.fits_withParameters_of_ne hs]

/-- The same spots come into question, with other parameters or not. -/
theorem candidates_withParameters (l : SpotLibrary) (id : Int64) (v : Json)
    (profile : Option String) :
    (l.withParameters id v).candidates profile = l.candidates profile := by
  cases profile <;> rfl

/-- A library after a text was put in the place of the parameters of a stored condition. -/
structure Overwritten (c : StoredCondition) (text : String) (l l' : SpotLibrary) : Prop where
  /-- It is the library from before, but for the parameters of the condition, which are the JSON
      that the text is, or null if it is none. -/
  library : ∃ v, l' = l.withParameters c.id v ∧
    (∀ w, Json.readWhole text = some w → v = w.canonical) ∧
    (Json.readWhole text = none → v = .null)
  /-- Other spots fit the hands that they fitted. -/
  others : ∀ h s, s.id ≠ c.spot → (l'.Fits h s ↔ l.Fits h s)
  /-- The spot of the condition fits a hand if the text is JSON that can be decoded to a street
      and the actions of the hand on it, and the other conditions of the spot hold. -/
  owner : ∀ h s, s.id = c.spot → (l'.Fits h s ↔
    (c.kind = "action_sequence" ∧ ∃ w, Json.readWhole text = some w ∧ ∃ street pattern,
      SpotCondition.actionsRecord.decode w.canonical = .ok (street, pattern) ∧
        h.sequence street = pattern) ∧
    ∀ r ∈ l.rules, r.spot = c.spot → r.id ≠ c.id → r.Holds h)
  /-- What is found is determined by those that fit among the same spots as before. -/
  found : ∀ profile h, (l'.find profile h).value = (l.candidates profile).bind fun spots =>
    (answerFor (spots.filter (l'.Fits h ·))).map (Option.map l.withDocuments)
  /-- With a text that is no JSON, these are the spots that fitted, without the one of the
      condition. -/
  broken : Json.readWhole text = none → ∀ h (spots : List Spot),
    spots.filter (l'.Fits h ·) = (spots.filter (l.Fits h ·)).filter (·.id ≠ c.spot)

/-- A condition with an id of its own is the only one that another text affects. -/
theorem Alone.overwritten {c : StoredCondition} (hc : l.Alone c.rule) (text : String) :
    Overwritten c text l (l.withParameters c.id (StoredCondition.readParameters text)) where
  library := by
    refine ⟨_, rfl, fun w hw => ?_, fun hnone => ?_⟩
    · rw [StoredCondition.readParameters, hw]
      rfl
    · rw [StoredCondition.readParameters, hnone]
      rfl
  others h s hs := hc.fits_withParameters_of_ne hs
  owner h s hs :=
    (hc.fits_withParameters_iff hs).trans (and_congr_left' SpotRule.holds_readParameters_iff)
  found profile h := by
    rw [find_value, candidates_withParameters]
    rfl
  broken hnone h spots := by
    refine hc.filter_fits_withParameters ?_ spots
    rw [StoredCondition.readParameters, hnone]
    exact SpotRule.not_holds_null

/-! ## Answers that are no library errors -/

theorem candidates_ne_library {profile : Option String} {e : LibraryError} :
    l.candidates profile ≠ .error (.library e) := by
  cases profile with
  | none => simp [candidates]
  | some n =>
    rw [candidates]
    cases l.profile? n <;> simp

/-- To look for the spot of a hand does not fail for the library's sake, if there is a library. -/
theorem find_ne_library (l : SpotLibrary) (profile : Option String) (h : Hand) (e : LibraryError) :
    (l.find profile h).value ≠ .error (.library e) := by
  cases hspots : l.candidates profile with
  | error e' =>
    rw [find_value, hspots]
    intro herror
    exact candidates_ne_library (hspots.trans (congrArg _ (Except.error.inj herror)))
  | ok spots =>
    rw [find_of_candidates hspots]
    split <;> simp

theorem answer_find_ne_library (l : SpotLibrary) (profile : Option String) (h : Hand)
    (e : LibraryError) : (SpotRequest.find profile h).answer l ≠ .spotError (.library e) := by
  have hfind := l.find_ne_library profile h e
  rw [SpotRequest.answer]
  cases hvalue : (l.find profile h).value with
  | ok m => simp
  | error e' =>
    intro hanswer
    exact hfind (hvalue.trans (congrArg _ (Answer.spotError.inj hanswer)))

end SpotLibrary

/-! ## Stores with other parameters -/

namespace Store

variable {s : Store}

/-- The library of spots is loaded with what is read as the parameters of the condition. -/
theorem loadSpots_setParameters {l : SpotLibrary} (hl : s.loadSpots = .ok l) (id : Int64)
    (text : String) :
    (s.setParameters id text).2.loadSpots =
      .ok (l.withParameters id (StoredCondition.readParameters text)) := by
  obtain ⟨htables, profiles, hprofiles, rfl⟩ := loadSpots_eq_ok_iff.1 hl
  refine loadSpots_eq_ok_iff.2 ⟨htables, profiles, hprofiles, ?_⟩
  rw [spotLibrary, SpotLibrary.withParameters]
  refine congrArg (fun rules => { s.spotLibrary profiles with rules }) ?_
  simp only [setParameters, spotLibrary, List.map_map]
  refine List.map_congr_left fun c _ => ?_
  simp only [Function.comp_apply]
  by_cases hid : c.id = id
  · rw [if_pos hid, if_pos (show c.rule.id = id from hid)]
    rfl
  · rw [if_neg hid, if_neg (show c.rule.id ≠ id from hid)]

/-- In sound contents a condition has an id of its own. -/
theorem alone_rule (hsound : s.contents.Sound) {c : StoredCondition}
    (hc : c ∈ s.contents.spotRules) (profiles : List Profile) :
    (s.spotLibrary profiles).Alone c.rule := by
  refine ⟨List.mem_map_of_mem hc, fun q hq hid => ?_⟩
  obtain ⟨d, hd, rfl⟩ := List.mem_map.1 hq
  rw [hsound.spotRules.eq_of_key_eq hd hc hid]

/-- In sound contents one row is overwritten. -/
theorem setParameters_count (hsound : s.contents.Sound) {c : StoredCondition}
    (hc : c ∈ s.contents.spotRules) (text : String) : (s.setParameters c.id text).1 = 1 := by
  have hids : (s.contents.spotRules.map StoredCondition.id).Nodup :=
    (List.pairwise_map.2 hsound.spotRules).nodup
  have hone := List.count_eq_one_of_mem hids (List.mem_map_of_mem hc)
  rw [List.count, List.countP_map] at hone
  rw [setParameters, ← hone]
  exact List.countP_congr fun d _ => by simp

/-- Whatever text is put in the place of the parameters of one condition, after any run that
    leaves a store initialised: the library of spots is loaded as before, but for this condition,
    whose parameters are what the text is read as. So only the spot of the condition is affected,
    and no search for the spot of a hand fails for want of a library. -/
theorem setParameters_local [Dialect] (steps : List StoreStep) (hinit : (run {} steps).Initialised)
    (c : StoredCondition) (hc : c ∈ (run {} steps).contents.spotRules) (text : String) :
    ((run {} steps).setParameters c.id text).1 = 1 ∧
    (∃ l l', (run {} steps).loadSpots = .ok l ∧
      ((run {} steps).setParameters c.id text).2.loadSpots = .ok l' ∧
      SpotLibrary.Overwritten c text l l') ∧
    ∀ profile h e,
      ((run {} steps).setParameters c.id text).2.source.answer (.spots (.find profile h)) ≠
        .spotError (.library e) := by
  have hsound := sound_run steps
  obtain ⟨profiles, -, hload⟩ := hinit.exists_loadSpots hsound
  have hload' := loadSpots_setParameters hload c.id text
  refine ⟨setParameters_count hsound hc text, ⟨_, _, hload, hload', ?_⟩, fun profile h e => ?_⟩
  · exact (alone_rule hsound hc profiles).overwritten text
  · rw [source_answer_spots hload']
    exact SpotLibrary.answer_find_ne_library _ profile h e

end Store

/-- A snapshot of two spots that fit the same hands. -/
def Snapshot.openedTwice : Snapshot where
  spots := [⟨1, "BTN vs BB", none⟩, ⟨2, "CO vs BB", none⟩]
  spotRules := [SpotLibrary.openedRule 1 1, SpotLibrary.openedRule 2 2]

open SpotLibrary in
/-- A hand that fits two spots fits one of them after the parameters of the other were
    overwritten. -/
theorem Store.setParameters_local_openedTwice :
    ∃ l l', (run {} [.importSnapshot .openedTwice]).loadSpots = .ok l ∧
      ((run {} [.importSnapshot .openedTwice]).setParameters 1 "not json").2.loadSpots = .ok l' ∧
      (l.resolve openedHand).value = .error (.ambiguous ["BTN vs BB", "CO vs BB"]) ∧
      (l'.resolve openedHand).value = .ok (some ⟨2, "CO vs BB", none⟩) := by
  obtain ⟨-, ⟨l, l', hl, hl', hover⟩, -⟩ :=
    setParameters_local [.importSnapshot .openedTwice]
      (initialised_run {} (.importSnapshot .openedTwice) []) (.ofRule (openedRule 1 1))
      (by decide +kernel) "not json"
  have hfitting : l.fitting openedHand = [⟨1, "BTN vs BB", none⟩, ⟨2, "CO vs BB", none⟩] := by
    obtain ⟨-, profiles, -, rfl⟩ := loadSpots_eq_ok_iff.1 hl
    -- Which spots fit does not depend on the profiles.
    change ((run {} [.importSnapshot .openedTwice]).spotLibrary []).fitting openedHand = _
    decide +kernel
  refine ⟨l, l', hl, hl', ?_, ?_⟩
  · rw [resolve_value, hfitting]
    rfl
  · obtain ⟨v, hv, -⟩ := hover.library
    have hspots : l'.spots = l.spots := by rw [hv, withParameters]
    have hnone : Json.readWhole "not json" = none := by decide +kernel
    rw [resolve_value, fitting, hspots, hover.broken hnone, ← fitting, hfitting]
    rfl

end HandStudy
