import HandStudy.Proofs.Decode
import HandStudy.Proofs.Ordered
import HandStudy.Resolution

/-!
# Resolution spot by spot

A spot fits a hand when it has a rule and all its rules hold (`SpotLibrary.Fits`).
Grouping the rules by spot and trying them one after the other comes to just that, and
the answer is determined by the list of the spots that fit (`resolve_value`): none, the
only one, or the names of all.
-/

namespace HandStudy

/-! ## Rules and spots -/

/-- A rule holds: it is a condition about actions whose parameters can be decoded, and
    the actions on its street are its pattern. -/
def SpotRule.Holds (r : SpotRule) (h : Hand) : Prop :=
  r.kind = "action_sequence" ∧ ∃ street pattern,
    SpotCondition.actionsRecord.decode r.parameters = .ok (street, pattern) ∧
      h.sequence street = pattern

theorem SpotRule.holds_value_iff {r : SpotRule} {h : Hand} :
    (r.holds h).value = true ↔ r.Holds h := by
  rw [SpotRule.holds, SpotRule.Holds, SpotCondition.ofRule, SpotCondition.actionsKind]
  by_cases hk : r.kind = "action_sequence"
  · cases hd : SpotCondition.actionsRecord.decode r.parameters with
    | ok p => simp [hk, SpotCondition.holds, Prod.ext_iff, eq_comm]
    | error e => simp [hk]
  · simp [hk]

instance (r : SpotRule) (h : Hand) : Decidable (r.Holds h) :=
  decidable_of_iff _ SpotRule.holds_value_iff

/-- A rule that is broken does not hold. -/
theorem SpotRule.not_holds_of_ofRule_eq_error {r : SpotRule} {h : Hand} {e : RuleError}
    (he : SpotCondition.ofRule r = .error e) : ¬r.Holds h := by
  rw [← SpotRule.holds_value_iff, SpotRule.holds, he]
  simp

theorem allHold_iff {rules : List SpotRule} {h : Hand} :
    (allHold rules h).value = true ↔ ∀ r ∈ rules, r.Holds h := by
  induction rules with
  | nil => simp [allHold]
  | cons r rules ih =>
    rw [allHold, Logged.value_bind]
    by_cases hr : (r.holds h).value = true
    · simp [hr, ih, SpotRule.holds_value_iff.1 hr]
    · simp [hr, mt SpotRule.holds_value_iff.2 hr]

/-- The rules of a spot hold together, and there is at least one. -/
theorem spotMatches_iff {rules : List SpotRule} {h : Hand} :
    (spotMatches rules h).value = true ↔ rules ≠ [] ∧ ∀ r ∈ rules, r.Holds h := by
  rw [spotMatches]
  cases rules with
  | nil => simp
  | cons r rules => simp [allHold_iff]

namespace SpotCondition

/-- Parameters that do not name a street are about the first one. -/
theorem street_of_decode {fields : List (String × Json)} {p : Street × String}
    (hf : ∀ v, ("street", v) ∉ fields) (hp : actionsRecord.decode (.obj fields) = .ok p) :
    p.1 = .preflop := by
  refine Decode.Record.decode_obj_keeps Prod.fst (fun m hm hne v a b hb => ?_) hf hp
  simp only [actionsRecord, List.mem_cons, List.not_mem_nil, or_false] at hm
  rcases hm with rfl | rfl
  · exact absurd rfl hne
  · change (Decode.text v).map (a.1, ·) = .ok b at hb
    cases ht : Decode.text v with
    | error e => simp [ht, Except.map] at hb
    | ok t =>
      rw [ht] at hb
      obtain rfl := Except.ok.inj hb
      rfl

end SpotCondition

namespace SpotLibrary

/-- A spot fits a hand: it has at least one rule, and all its rules hold. -/
def Fits (l : SpotLibrary) (h : Hand) (s : Spot) : Prop :=
  (∃ r ∈ l.rules, r.spot = s.id) ∧ ∀ r ∈ l.rules, r.spot = s.id → r.Holds h

instance (l : SpotLibrary) (h : Hand) (s : Spot) : Decidable (l.Fits h s) :=
  inferInstanceAs (Decidable (_ ∧ _))

/-- The spots that fit a hand, in the order of the library. -/
def fitting (l : SpotLibrary) (h : Hand) : List Spot :=
  l.spots.filter (l.Fits h ·)

/-- What is found under a spot's id are the rules of the spot, if it has any. -/
theorem lookup_rulesBySpot (l : SpotLibrary) (id : Int64) :
    l.rulesBySpot.lookup id =
      if ∃ r ∈ l.rules, r.spot = id then some (l.rules.filter (·.spot = id)) else none := by
  rw [rulesBySpot, Ordered.lookup_groupBy]
  simp only [List.mem_map]

/-- Of the given spots those match that fit. -/
theorem matching_value (l : SpotLibrary) (spots : List Spot) (h : Hand) :
    (matching l.rulesBySpot spots h).value = spots.filter (l.Fits h ·) := by
  induction spots with
  | nil => rfl
  | cons s spots ih =>
    rw [matching, lookup_rulesBySpot]
    by_cases hs : ∃ r ∈ l.rules, r.spot = s.id
    · have hmatch : (spotMatches (l.rules.filter (·.spot = s.id)) h).value = true ↔ l.Fits h s := by
        rw [spotMatches_iff, Fits]
        simp [hs]
      by_cases hf : l.Fits h s
      · simp [hs, hf, hmatch.2 hf, ih]
      · simp [hs, hf, mt hmatch.1 hf, ih]
    -- A spot without rules is not found among the groups, and does not fit.
    · have hf : ¬l.Fits h s := fun hf => hs hf.1
      simp [hs, hf, ih]

/-! ## The answer -/

/-- The answer when these are the spots that fit. -/
def answerFor : List Spot → Except SpotError (Option Spot)
  | [] => .ok none
  | [s] => .ok (some s)
  | several => .error (.ambiguous (several.map Spot.name))

/-- The answer about some of the spots is determined by those that fit. -/
theorem resolveAmong_value (l : SpotLibrary) (spots : List Spot) (h : Hand) :
    (l.resolveAmong spots h).value = answerFor (spots.filter (l.Fits h ·)) := by
  rw [resolveAmong, Logged.value_bind, matching_value]
  cases spots.filter (l.Fits h ·) with
  | nil => rfl
  | cons s rest =>
    cases rest with
    | nil => rfl
    | cons t rest => rfl

/-- The answer is determined by the spots that fit. -/
theorem resolve_value (l : SpotLibrary) (h : Hand) :
    (l.resolve h).value = answerFor (l.fitting h) :=
  l.resolveAmong_value l.spots h

/-- The spots among which the one of a hand is looked for: those of a profile that the library
    knows, if one is asked for. -/
def candidates (l : SpotLibrary) : Option String → Except SpotError (List Spot)
  | none => .ok l.spots
  | some name =>
    match l.profile? name with
    | none => .error (.unknownProfile name)
    | some p => .ok (l.spotsFor p.name)

/-- A profile has the same spots under all spellings of its name. -/
theorem spotsFor_congr (l : SpotLibrary) {m n : String} (h : Text.sameLetters m n) :
    l.spotsFor m = l.spotsFor n := by
  have hlink (t : String) : Text.sameLetters t m = Text.sameLetters t n := by
    rw [Text.sameLetters_comm t m, Text.sameLetters_comm t n, Text.sameLetters_congr h]
  simp only [spotsFor, hlink]

theorem isNamed_of_profile? {l : SpotLibrary} {n : String} {p : Profile}
    (hp : l.profile? n = some p) : p.isNamed n := by
  have hsome := List.find?_some hp
  exact hsome

/-- The answer about a profile that the library knows is determined by those of its spots that
    fit. -/
theorem resolveIn_value {l : SpotLibrary} {n : String} {p : Profile} (hp : l.profile? n = some p)
    (h : Hand) : (l.resolveIn n h).value = answerFor ((l.spotsFor n).filter (l.Fits h ·)) := by
  rw [resolveIn, hp, ← l.spotsFor_congr (m := p.name) (isNamed_of_profile? hp)]
  exact l.resolveAmong_value (l.spotsFor p.name) h

/-- The answer is determined by the candidates that fit. -/
theorem find_value (l : SpotLibrary) (profile : Option String) (h : Hand) :
    (l.find profile h).value = (l.candidates profile).bind fun spots =>
      (answerFor (spots.filter (l.Fits h ·))).map (Option.map l.withDocuments) := by
  cases profile with
  | none =>
    have hvalue : (l.find none h).value =
        Except.map (Option.map l.withDocuments) (l.resolve h).value := rfl
    rw [hvalue, resolve_value]
    rfl
  | some name =>
    have hvalue : (l.find (some name) h).value =
        Except.map (Option.map l.withDocuments) (l.resolveIn name h).value := rfl
    simp only [hvalue, candidates, resolveIn]
    cases l.profile? name with
    | none => rfl
    | some p => exact congrArg _ (l.resolveAmong_value (l.spotsFor p.name) h)

theorem answerFor_eq (spots : List Spot) :
    answerFor spots =
      if 2 ≤ spots.length then .error (.ambiguous (spots.map Spot.name)) else .ok spots.head? := by
  rcases spots with _ | ⟨s, _ | ⟨t, spots⟩⟩
  · rfl
  · rfl
  · simp [answerFor]

/-- There are candidates if no profile is asked for, or one that the library knows. -/
theorem exists_candidates {l : SpotLibrary} {profile : Option String}
    (h : ∀ n, profile = some n → (l.profile? n).isSome) :
    ∃ spots, l.candidates profile = .ok spots := by
  cases profile with
  | none => exact ⟨_, rfl⟩
  | some n =>
    obtain ⟨p, hp⟩ := Option.isSome_iff_exists.1 (h n rfl)
    exact ⟨l.spotsFor p.name, by rw [candidates, hp]⟩

/-- The candidates that fit are the answer: their names if they are several, and else the one that
    there may be. -/
theorem find_of_candidates {l : SpotLibrary} {profile : Option String} {spots : List Spot}
    (hspots : l.candidates profile = .ok spots) (h : Hand) :
    (l.find profile h).value =
      if 2 ≤ (spots.filter (l.Fits h ·)).length then
        .error (.ambiguous ((spots.filter (l.Fits h ·)).map Spot.name))
      else .ok ((spots.filter (l.Fits h ·)).head?.map l.withDocuments) := by
  rw [find_value, hspots, Except.bind, answerFor_eq]
  split <;> rfl

/-- A profile that is not known is no answer about the spots that fit. -/
theorem answerFor_ne_unknownProfile {spots : List Spot} {n : String} :
    answerFor spots ≠ .error (.unknownProfile n) := by
  rcases spots with _ | ⟨s, _ | ⟨t, spots⟩⟩ <;> simp [answerFor]

/-- The only spot that fits is the answer. -/
theorem mem_of_answerFor_eq_some {spots : List Spot} {s : Spot}
    (h : answerFor spots = .ok (some s)) : s ∈ spots := by
  rcases spots with _ | ⟨t, _ | ⟨u, spots⟩⟩
  · cases h
  · exact List.mem_singleton.2 (Option.some.inj (Except.ok.inj h)).symm
  · cases h

/-- Two answers are the same, up to the order of the names in an ambiguous one. -/
def SameUpToOrder : Except SpotError (Option Spot) → Except SpotError (Option Spot) → Prop
  | .error (.ambiguous names), .error (.ambiguous names') => names.Perm names'
  | a, b => a = b

theorem sameUpToOrder_answerFor {spots spots' : List Spot} (hp : spots.Perm spots') :
    SameUpToOrder (answerFor spots) (answerFor spots') := by
  match spots, spots', hp with
  | [], [], _ => exact rfl
  | [s], [t], hp =>
    obtain rfl := List.singleton_perm_singleton.1 hp
    exact rfl
  | _ :: _ :: _, _ :: _ :: _, hp => exact hp.map Spot.name
  | [], _ :: _, hp | [_], [], hp | [_], _ :: _ :: _, hp | _ :: _ :: _, [], hp |
    _ :: _ :: _, [_], hp => exact absurd hp.length_eq (by simp)

/-! ## Other rules and other orders -/

/-- Whether a spot fits depends on the set of its own rules only. -/
theorem fits_congr {l m : SpotLibrary} {h : Hand} {s : Spot}
    (hlm : ∀ r, r.spot = s.id → (r ∈ l.rules ↔ r ∈ m.rules)) : l.Fits h s ↔ m.Fits h s := by
  have hrule (r : SpotRule) : r ∈ l.rules ∧ r.spot = s.id ↔ r ∈ m.rules ∧ r.spot = s.id :=
    and_congr_left fun hr => hlm r hr
  simp only [Fits, hrule, ← and_imp]

/-- A broken rule keeps its own spot from fitting, and no other one. -/
theorem fitting_of_broken {l : SpotLibrary} {h : Hand} {before after : List SpotRule}
    {r : SpotRule} {e : RuleError} (hl : l.rules = before ++ r :: after)
    (he : SpotCondition.ofRule r = .error e) :
    l.fitting h = ({ l with rules := before ++ after }.fitting h).filter (·.id ≠ r.spot) := by
  rw [fitting, fitting, List.filter_filter]
  refine List.filter_congr fun s _ => ?_
  by_cases hs : s.id = r.spot
  · have hr : ¬l.Fits h s := fun hf =>
      SpotRule.not_holds_of_ofRule_eq_error he (hf.2 r (by simp [hl]) hs.symm)
    simp [hs, hr]
  · have hrest : l.Fits h s ↔ { l with rules := before ++ after }.Fits h s := by
      refine fits_congr fun q hq => ?_
      have hqr : q ≠ r := fun e => hs (e ▸ hq.symm)
      simp [hl, hqr]
    simp [hs, hrest]

/-- More rules for a spot that has one already change nothing, or keep it from
    fitting. -/
theorem fitting_of_more_rules {l : SpotLibrary} {h : Hand} {rules : List SpotRule} {id : Int64}
    (hsub : l.rules ⊆ rules) (hnew : ∀ r ∈ rules, r ∈ l.rules ∨ r.spot = id)
    (hold : ∃ r ∈ l.rules, r.spot = id) :
    { l with rules }.fitting h = l.fitting h ∨
      { l with rules }.fitting h = (l.fitting h).filter (·.id ≠ id) := by
  have hother (s : Spot) (hs : s.id ≠ id) : { l with rules }.Fits h s ↔ l.Fits h s := by
    refine fits_congr fun r hr => ⟨fun hmem => ?_, fun hmem => hsub hmem⟩
    exact (hnew r hmem).resolve_right fun e => hs (hr.symm.trans e)
  have hall (s : Spot) (hf : { l with rules }.Fits h s) (hs : s.id = id) : l.Fits h s :=
    ⟨hs ▸ hold, fun r hr => hf.2 r (hsub hr)⟩
  -- All spots of this id have the same rules, so they fit together or not at all.
  by_cases hrules : ∀ r ∈ rules, r.spot = id → r.Holds h
  · refine .inl (List.filter_congr fun s _ => ?_)
    by_cases hs : s.id = id
    · have hnew : { l with rules }.Fits h s :=
        ⟨let ⟨r, hr, e⟩ := hold; ⟨r, hsub hr, e.trans hs.symm⟩,
          fun r hr e => hrules r hr (e.trans hs)⟩
      simp [hnew, hall s hnew hs]
    · simp [hother s hs]
  · right
    rw [fitting, fitting, List.filter_filter]
    refine List.filter_congr fun s _ => ?_
    by_cases hs : s.id = id
    · have hnot : ¬{ l with rules }.Fits h s := fun hf =>
        hrules fun r hr e => hf.2 r hr (e.trans hs.symm)
      simp [hs, hnot]
    · simp [hs, hother s hs]

/-- The rules of a spot are conditions that have to hold together, and more than one
    spot is an answer of its own. The spots that fit determine the answer: none, the
    only one, or the names of all in the order of the library. So the order of the
    rules does not matter, that of the spots matters for the order of the names only, a
    broken rule takes its own spot away and no other one, and more rules for a spot that
    has one already can only take that spot away. -/
theorem resolve_conjunction (l : SpotLibrary) (h : Hand) :
    (l.fitting h = [] → (l.resolve h).value = .ok none) ∧
    (∀ s, l.fitting h = [s] → (l.resolve h).value = .ok (some s)) ∧
    (2 ≤ (l.fitting h).length →
      (l.resolve h).value = .error (.ambiguous ((l.fitting h).map Spot.name))) ∧
    (∀ fields p, (∀ v, ("street", v) ∉ fields) →
      SpotCondition.actionsRecord.decode (.obj fields) = .ok p → p.1 = .preflop) ∧
    (∀ rules, rules.Perm l.rules → ({ l with rules }.resolve h).value = (l.resolve h).value) ∧
    (∀ spots, spots.Perm l.spots →
      SameUpToOrder ({ l with spots }.resolve h).value (l.resolve h).value) ∧
    (∀ before r after e, l.rules = before ++ r :: after → SpotCondition.ofRule r = .error e →
      l.fitting h = ({ l with rules := before ++ after }.fitting h).filter (·.id ≠ r.spot)) ∧
    (∀ rules id, l.rules ⊆ rules → (∀ r ∈ rules, r ∈ l.rules ∨ r.spot = id) →
      (∃ r ∈ l.rules, r.spot = id) →
      { l with rules }.fitting h = l.fitting h ∨
        { l with rules }.fitting h = (l.fitting h).filter (·.id ≠ id)) := by
  refine ⟨fun hf => ?_, fun s hf => ?_, fun hf => ?_,
    fun _ _ hf hp => SpotCondition.street_of_decode hf hp, fun rules hrules => ?_,
    fun spots hspots => ?_, fun _ _ _ _ hl he => fitting_of_broken hl he,
    fun _ _ hsub hnew hold => fitting_of_more_rules hsub hnew hold⟩
  · rw [resolve_value, hf, answerFor]
  · rw [resolve_value, hf, answerFor]
  · rw [resolve_value]
    match l.fitting h, hf with
    | _ :: _ :: _, _ => rfl
  · rw [resolve_value, resolve_value, fitting, fitting]
    congr 1
    refine List.filter_congr fun s _ => ?_
    rw [decide_eq_decide]
    exact fits_congr fun r _ => hrules.mem_iff
  · rw [resolve_value, resolve_value]
    exact sameUpToOrder_answerFor (hspots.filter _)

/-- A hand that was opened and called before the flop. -/
def openedHand : Hand where
  preflop := "4r6c"

/-- A rule that asks for these actions, without naming their street. -/
def openedRule (id spot : Int64) : SpotRule :=
  ⟨id, spot, "action_sequence", .obj [("pattern", .str "4r6c")]⟩

/-- A rule of a kind that is not known. -/
def unknownRule (id spot : Int64) : SpotRule :=
  ⟨id, spot, "stack_depth", .null⟩

/-- Two spots that fit the same hands, and one whose only rule is broken. -/
def overlapping : SpotLibrary where
  spots := [⟨1, "BTN vs BB", none⟩, ⟨2, "CO vs BB", none⟩, ⟨3, "limped", none⟩]
  rules := [openedRule 1 1, openedRule 2 2, unknownRule 3 3]

/-- Of three spots two are named, whatever the order of the rules. The one with the
    broken rule is not among them, and a broken rule more takes away another one. -/
theorem resolve_overlapping :
    (overlapping.resolve openedHand).value = .error (.ambiguous ["BTN vs BB", "CO vs BB"]) ∧
    ({ overlapping with rules := overlapping.rules.reverse }.resolve openedHand).value =
      (overlapping.resolve openedHand).value ∧
    SameUpToOrder
      ({ overlapping with spots := overlapping.spots.reverse }.resolve openedHand).value
      (overlapping.resolve openedHand).value ∧
    ¬overlapping.Fits openedHand ⟨3, "limped", none⟩ ∧
    { overlapping with rules := unknownRule 4 2 :: overlapping.rules }.fitting openedHand =
      [⟨1, "BTN vs BB", none⟩] := by
  have hfit : overlapping.fitting openedHand =
      [⟨1, "BTN vs BB", none⟩, ⟨2, "CO vs BB", none⟩] := by decide +kernel
  obtain ⟨-, -, hseveral, -, hrules, hspots, hbroken, hmore⟩ :=
    resolve_conjunction overlapping openedHand
  refine ⟨?_, hrules _ (List.reverse_perm _), hspots _ (List.reverse_perm _), fun hf => ?_, ?_⟩
  · rw [hseveral (by rw [hfit]; exact le_refl 2), hfit]
    rfl
  · have hmem : ⟨3, "limped", none⟩ ∈ overlapping.fitting openedHand :=
      List.mem_filter.2 ⟨by decide +kernel, decide_eq_true hf⟩
    rw [hbroken (overlapping.rules.take 2) (unknownRule 3 3) [] _ rfl rfl] at hmem
    exact absurd rfl (of_decide_eq_true (List.mem_filter.1 hmem).2)
  · have hnew : ∀ r ∈ unknownRule 4 2 :: overlapping.rules, r ∈ overlapping.rules ∨ r.spot = 2 := by
      intro r hr
      rcases List.mem_cons.1 hr with rfl | hr
      · exact .inr rfl
      · exact .inl hr
    -- The hand fitted two spots, and now it fits one, so it is the other case.
    rcases hmore _ 2 (List.subset_cons_self _ _) hnew
      ⟨openedRule 2 2, by simp [overlapping], rfl⟩ with hsame | hless
    · have hone : ({ overlapping with rules := unknownRule 4 2 :: overlapping.rules }.fitting
          openedHand).length = 1 := by decide +kernel
      rw [hsame, hfit] at hone
      exact absurd hone (by decide)
    · rw [hless, hfit]
      decide

end SpotLibrary

end HandStudy
