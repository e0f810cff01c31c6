import HandStudy.Proofs.TagRule

/-!
# What a batch notes

A batch notes each fault of a library when it shows. That a text of a rule cannot be compiled shows
when the rules are, which is done once, before any hand and even if there is none. That a flop is
malformed shows when a rule meets it, so it is noted for every hand and every rule, but of the rules
of a tag only up to the first that matches, as those after it are not looked at. If a glob is too
large everything ends there: what is wrong with the rules before it has been noted, and that is all.

`TagLibrary.classifyAll_notes` lists the warnings. What else is noted about a hand is no warning: it
is about a rule, too, or it is the count at the end.
-/

namespace HandStudy

/-- The events of one evaluation after another are those of each, one after another. -/
theorem Logged.events_mapM {α β : Type} {f : α → Logged β} (hf : ∀ a, (f a).aborted = false)
    (l : List α) : (l.mapM f).events = l.flatMap fun a => (f a).events := by
  induction l with
  | nil => rfl
  | cons a l ih => simp [hf, ih]

/-! ## What a check notes -/

/-- Conditions that are checked together note what one of them does. -/
theorem Verdict.exists_of_mem_events_all {conditions : List (Hand → Verdict)} {h : Hand}
    {e : Event} (he : e ∈ (Verdict.all conditions h).events) :
    ∃ condition ∈ conditions, e ∈ (condition h).events := by
  induction conditions with
  | nil => cases he
  | cons condition conditions ih =>
    rw [Verdict.all, Logged.events_bind, List.mem_append] at he
    rcases he with he | he
    · exact ⟨condition, List.mem_cons_self, he⟩
    · split at he
      · cases he
      · split at he
        · obtain ⟨condition', hmem, he⟩ := ih he
          exact ⟨condition', List.mem_cons_of_mem _ hmem, he⟩
        · cases he

namespace CompiledRule

variable {c : CompiledRule} {h : Hand} {e : Event}

theorem eq_noFlop_of_mem_events (he : e ∈ (c.checkTexture h).events) : e = .noFlop c.rule.id := by
  rw [checkTexture] at he
  split at he
  · cases he
  · split at he
    · cases he
    · exact List.mem_singleton.1 he
    · cases he

theorem eq_formatGuessed_of_mem_events (he : e ∈ (c.checkFormat h).events) :
    e = .formatGuessed c.rule.id := by
  rw [checkFormat] at he
  split at he
  · cases he
  · cases hformat : h.resolvedFormat with
    | given f =>
      rw [hformat] at he
      cases he
    | guessed f =>
      rw [hformat] at he
      exact List.mem_singleton.1 he

/-- A check notes what it cannot tell, and warns of nothing. -/
theorem eq_of_mem_events_check (he : e ∈ (c.check h).events) :
    e = .noFlop c.rule.id ∨ e = .formatGuessed c.rule.id := by
  have hstack : (c.checkStack h).events = [] := by
    rw [checkStack]
    split
    · rfl
    · cases h.stack <;> rfl
  obtain ⟨condition, hmem, he⟩ := Verdict.exists_of_mem_events_all he
  simp only [List.mem_cons, List.not_mem_nil, or_false] at hmem
  rcases hmem with rfl | rfl | rfl | rfl | rfl | rfl
  · cases he
  · exact .inl (eq_noFlop_of_mem_events he)
  · rw [hstack] at he
    cases he
  · exact .inr (eq_formatGuessed_of_mem_events he)
  · cases he
  · cases he

theorem filter_isWarning_check (c : CompiledRule) (h : Hand) :
    (c.check h).events.filter Event.isWarning = [] := by
  refine List.filter_eq_nil_iff.2 fun e he => ?_
  rcases eq_of_mem_events_check he with rfl | rfl <;> exact Bool.false_ne_true

end CompiledRule

/-! ## What is noted of a hand -/

theorem events_activeAmong (groups : List (Int64 × List CompiledRule)) (h : Hand) :
    (activeAmong groups h).events = groups.flatMap fun g => (anyMatches g.2 h).events := by
  induction groups with
  | nil => rfl
  | cons g groups ih => simp [activeAmong, ih]

/-- Whatever is noted while rules are tried is about one of them. -/
theorem isSome_rule?_of_mem_events {rules : List CompiledRule} {h : Hand} {e : Event}
    (he : e ∈ (anyMatches rules h).events) : e.rule?.isSome := by
  induction rules with
  | nil => cases he
  | cons c rules ih =>
    rw [anyMatches, Logged.events_bind, c.aborted_check, if_neg Bool.false_ne_true,
      List.mem_append] at he
    rcases he with he | he
    · rcases CompiledRule.eq_of_mem_events_check he with rfl | rfl <;> rfl
    · split at he
      · cases he
      · exact ih he
      · rcases List.mem_cons.1 he with rfl | he
        · rfl
        · exact ih he

section

variable [Dialect]

/-! ## What a rule meets -/

namespace TagRule

variable {r : TagRule} {h : Hand}

/-- A rule with a text that cannot be compiled is met by no hand. -/
theorem Meets.firstFault?_eq_none (hmeets : r.Meets h) : r.firstFault? = none := by
  refine List.findSome?_eq_none_iff.2 fun t _ => RuleText.fault?_eq_none_iff.2 fun text ht => ?_
  rcases t with s | (p | _)
  · obtain ⟨pattern, hpattern, -⟩ := hmeets.patterns s text ht
    exact RuleText.faultOf?_pattern_eq_none_iff.2 ⟨pattern, hpattern⟩
  · obtain ⟨glob, hglob, -⟩ := hmeets.format p text ht
    exact RuleText.faultOf?_glob_eq_none_iff.2 ⟨glob, hglob⟩
  · obtain ⟨glob, -, hglob, -⟩ := hmeets.gameType text ht
    exact RuleText.faultOf?_glob_eq_none_iff.2 ⟨glob, hglob⟩

theorem matches_iff_meets : r.Matches h ↔ r.Meets h := by
  constructor
  · intro hmatches
    cases hr : r.firstFault? with
    | none => exact (matchesHand_eq_true_iff hr).1 hmatches
    | some fault =>
      rw [Matches, matchesHand_of_firstFault? hr] at hmatches
      cases hmatches
  · exact fun hmeets => (matchesHand_eq_true_iff hmeets.firstFault?_eq_none).2 hmeets

instance decidableMeets (r : TagRule) (h : Hand) : Decidable (r.Meets h) :=
  decidable_of_iff ((r.matchesHand h).value = .ok true) matches_iff_meets

theorem patternsOccur_iff : r.PatternsOccur h ↔ ∀ s ∈ Street.all, ∀ text ∈ r.pattern? s,
    (Dialect.pattern? text).any (·.foundIn (h.sequence s)) := by
  have hall (s : Street) : s ∈ Street.all := by cases s <;> decide
  simp only [PatternsOccur, hall, forall_true_left, Option.mem_def, Option.any_eq_true,
    Pattern.foundIn_iff_occurs]

instance decidablePatternsOccur (r : TagRule) (h : Hand) : Decidable (r.PatternsOccur h) :=
  decidable_of_iff _ patternsOccur_iff.symm

/-- What is wrong with the flop that a rule meets: the first of its texts that is no card. -/
def boardFault? (r : TagRule) (h : Hand) : Option RuleFault :=
  if r.PatternsOccur h ∧ r.textureNames?.isSome then
    h.flopTexts.bind fun texts => (errorOf? (Card.parseAll texts)).map .badBoard
  else none

theorem boardFault?_eq_some_iff {fault : RuleFault} :
    r.boardFault? h = some fault ↔ ∃ card, r.BoardFails h card ∧ fault = .badBoard card := by
  simp only [boardFault?, BoardFails, Option.ite_none_right_eq_some, Option.bind_eq_some_iff,
    Option.map_eq_some_iff, errorOf?_eq_some_iff]
  constructor
  · rintro ⟨⟨hpatterns, htexture⟩, texts, htexts, card, hcard, rfl⟩
    exact ⟨card, ⟨hpatterns, htexture, texts, htexts, hcard⟩, rfl⟩
  · rintro ⟨card, ⟨hpatterns, htexture, texts, htexts, hcard⟩, rfl⟩
    exact ⟨⟨hpatterns, htexture⟩, texts, htexts, card, hcard, rfl⟩

/-- What checking a rule whose texts can be compiled comes to. -/
theorem check_of_compile {c : CompiledRule} (hc : r.compile = .ok c) (h : Hand) :
    ((c.check h).value = .ok true ∧ r.Meets h) ∨
    ((c.check h).value = .ok false ∧ ¬r.Meets h ∧ r.boardFault? h = none) ∨
    ∃ fault, (c.check h).value = .error ⟨r.id, fault⟩ ∧ ¬r.Meets h ∧
      r.boardFault? h = some fault := by
  have hr : r.firstFault? = none := by
    have hnone := errorOf?_eq_none_iff.2 ⟨c, hc⟩
    rwa [errorOf?_compile, Option.map_eq_none_iff] at hnone
  have hmeets := matchesHand_eq_true_iff (h := h) hr
  have hfails (e : RuleError) := matchesHand_eq_error_iff (h := h) (e := e) hr
  rw [value_matchesHand_of_ok hc] at hmeets
  simp only [value_matchesHand_of_ok hc] at hfails
  cases hv : (c.check h).value with
  | error e =>
    obtain ⟨card, hcard, rfl⟩ := (hfails e).1 hv
    exact .inr (.inr ⟨_, rfl, fun hm => by simp [hmeets.2 hm] at hv,
      boardFault?_eq_some_iff.2 ⟨card, hcard, rfl⟩⟩)
  | ok b =>
    cases b with
    | true => exact .inl ⟨rfl, hmeets.1 hv⟩
    | false =>
      refine .inr (.inl ⟨rfl, fun hm => by simp [hmeets.2 hm] at hv, ?_⟩)
      refine Option.eq_none_iff_forall_ne_some.2 fun fault hfault => ?_
      obtain ⟨card, hcard, -⟩ := boardFault?_eq_some_iff.1 hfault
      simp [(hfails _).2 ⟨card, hcard, rfl⟩] at hv

end TagRule

/-! ## Rule by rule -/

/-- Notes that rules are skipped, those of them that have a fault, with the fault. -/
def skips (fault? : TagRule → Option RuleFault) (rules : List TagRule) : List Event :=
  rules.filterMap fun r => (fault? r).map fun fault => .ruleSkipped ⟨r.id, fault⟩

omit [Dialect] in
theorem filter_isWarning_skips (fault? : TagRule → Option RuleFault) (rules : List TagRule) :
    (skips fault? rules).filter Event.isWarning = skips fault? rules := by
  refine List.filter_eq_self.2 fun e he => ?_
  obtain ⟨r, -, he⟩ := List.mem_filterMap.1 he
  obtain ⟨fault, -, rfl⟩ := Option.map_eq_some_iff.1 he
  rfl

/-- Compiling notes the rules with a fault, up to one that breaks off. -/
theorem events_compileRules (rules : List TagRule) :
    (compileRules rules).events = skips TagRule.firstFault? (rules.takeWhile (¬ ·.Aborts)) := by
  induction rules with
  | nil => rfl
  | cons r rules ih =>
    rw [compileRules, Logged.events_bind, TagRule.events_build, List.nil_append,
      TagRule.value_build]
    by_cases haborts : r.Aborts
    · rw [if_pos (TagRule.aborted_build_iff.2 haborts),
        List.takeWhile_cons_of_neg (by simpa using haborts)]
      rfl
    · rw [if_neg (mt TagRule.aborted_build_iff.1 haborts),
        List.takeWhile_cons_of_pos (by simpa using haborts)]
      cases hr : r.firstFault? with
      | none =>
        obtain ⟨c, hc, -⟩ := TagRule.exists_reads hr
        simp [hc, hr, ih, skips]
      | some fault => simp [TagRule.compile_of_firstFault? hr, hr, ih, skips]

/-- So does compiling the rules of several tags, one tag after the other. -/
theorem events_compileGroups (groups : List (Int64 × List TagRule)) :
    (compileGroups groups).events =
      skips TagRule.firstFault? ((groups.flatMap (·.2)).takeWhile (¬ ·.Aborts)) := by
  induction groups with
  | nil => rfl
  | cons g groups ih =>
    have hevents : (compileGroups (g :: groups)).events = (compileRules g.2).events ++
        if (compileRules g.2).aborted then [] else (compileGroups groups).events := by
      simp [compileGroups]
    rw [hevents, events_compileRules, ih, List.flatMap_cons]
    by_cases haborts : ∃ r ∈ g.2, r.Aborts
    · rw [if_pos (aborted_compileRules_iff.2 haborts), List.append_nil]
      -- None of the groups after this one is reached.
      obtain ⟨r, hr, haborts⟩ := haborts
      obtain ⟨before, after, hsplit⟩ := List.append_of_mem hr
      rw [hsplit, List.append_assoc, List.cons_append, List.takeWhile_append,
        List.takeWhile_append, List.takeWhile_cons_of_neg (by simpa using haborts),
        List.takeWhile_cons_of_neg (by simpa using haborts)]
    · rw [if_neg (mt aborted_compileRules_iff.1 haborts), List.takeWhile_append_of_pos]
      · have hall : g.2.takeWhile (fun r => ¬ r.Aborts) = g.2 :=
          List.takeWhile_eq_self_iff.2 fun r hr => by simpa using fun h => haborts ⟨r, hr, h⟩
        rw [hall, skips, skips, skips, List.filterMap_append]
      · exact fun r hr => by simpa using fun h => haborts ⟨r, hr, h⟩

/-- What trying rules warns of, among those that are left of some rules when they are compiled: the
    rules that meet a malformed flop, up to the first that matches. -/
theorem filter_isWarning_anyMatches (rules : List TagRule) (h : Hand) :
    (anyMatches (compileRules rules).value h).events.filter Event.isWarning =
      skips (·.boardFault? h)
        ((rules.filter (·.firstFault?.isNone)).takeWhile fun r => ¬ r.Meets h) := by
  rw [compileRules_value]
  induction rules with
  | nil => rfl
  | cons r rules ih =>
    cases hr : r.firstFault? with
    | some fault =>
      rw [List.filterMap_cons_none (by rw [TagRule.compile_of_firstFault? hr]; rfl), ih,
        List.filter_cons_of_neg (by rw [hr]; exact Bool.false_ne_true)]
    | none =>
      obtain ⟨c, hc, -⟩ := TagRule.exists_reads hr
      rw [List.filterMap_cons_some (by rw [hc]; rfl)]
      rw [anyMatches, Logged.events_bind, c.aborted_check, if_neg Bool.false_ne_true,
        List.filter_append, c.filter_isWarning_check h, List.nil_append,
        List.filter_cons_of_pos (by rw [hr]; rfl)]
      -- A match ends the search. Otherwise it goes on, and only a failure is noted.
      rcases TagRule.check_of_compile hc h with ⟨hv, hm⟩ | ⟨hv, hm, hf⟩ | ⟨fault, hv, hm, hf⟩
      · simp [hv, hm, skips]
      · simpa [hv, hm, hf, skips] using ih
      · simpa [hv, hm, hf, skips, Event.isWarning, List.filter_cons] using ih

/-! ## Batches -/

namespace TagLibrary

/-- The tags of the rules, in order. -/
def ruleTags (l : TagLibrary) : List Int64 :=
  Ordered.ofList (l.rules.map TagRule.tag)

/-- The rules of a tag. -/
def rulesOf (l : TagLibrary) (t : Int64) : List TagRule :=
  l.rules.filter (·.tag = t)

/-- The rules of a tag whose texts can all be compiled. -/
def soundRules (l : TagLibrary) (t : Int64) : List TagRule :=
  (l.rulesOf t).filter (·.firstFault?.isNone)

/-- The rules in the order in which they are compiled, up to one that breaks off. -/
def compiledRules (l : TagLibrary) : List TagRule :=
  (l.ruleTags.flatMap l.rulesOf).takeWhile (¬ ·.Aborts)

/-- What is noted about one hand of a batch. -/
def handEvents (l : TagLibrary) (h : Hand) : List Event :=
  (l.prepare.value.classify h).events

omit [Dialect] in
theorem pairwise_ruleTags (l : TagLibrary) : l.ruleTags.Pairwise (· < ·) :=
  Ordered.pairwise_ofList _

omit [Dialect] in
theorem mem_ruleTags {l : TagLibrary} {t : Int64} : t ∈ l.ruleTags ↔ ∃ r ∈ l.rules, r.tag = t := by
  rw [ruleTags, Ordered.mem_ofList, List.mem_map]

omit [Dialect] in
theorem rulesByTag_eq (l : TagLibrary) :
    l.rulesByTag = l.ruleTags.map fun t => (t, l.rulesOf t) := rfl

theorem events_prepare (l : TagLibrary) :
    l.prepare.events = skips TagRule.firstFault? l.compiledRules := by
  have hprepare : l.prepare.events = (compileGroups l.rulesByTag).events := by
    rw [prepare, Logged.events_bind, Logged.events_pure, ite_self, List.append_nil]
  rw [hprepare, events_compileGroups, rulesByTag_eq, List.flatMap_map]
  rfl

/-- If no rule breaks off all of them are compiled, tag by tag. -/
theorem skips_compiledRules {l : TagLibrary} (hl : ¬ l.Aborts)
    (fault? : TagRule → Option RuleFault) :
    skips fault? l.compiledRules = l.ruleTags.flatMap fun t => skips fault? (l.rulesOf t) := by
  have hall : l.compiledRules = l.ruleTags.flatMap l.rulesOf := by
    refine List.takeWhile_eq_self_iff.2 fun r hr => ?_
    obtain ⟨t, -, hr⟩ := List.mem_flatMap.1 hr
    simpa using fun haborts => hl ⟨r, List.mem_of_mem_filter hr, haborts⟩
  rw [hall, skips, List.filterMap_flatMap]
  rfl

/-- The batch is noted about in two parts: the library, and then each hand. -/
theorem events_classifyAll (l : TagLibrary) (hands : List Hand) :
    (l.classifyAll hands).events =
      l.prepare.events ++ if l.Aborts then [] else hands.flatMap l.handEvents := by
  rw [classifyAll, Logged.events_bind,
    Logged.events_mapM fun h => PreparedTags.aborted_classify _ h]
  exact congrArg (l.prepare.events ++ ·) (if_congr aborted_prepare_iff rfl rfl)

/-- What is noted before a hand is counted. -/
def ruleEvents (l : TagLibrary) (h : Hand) : List Event :=
  (l.prepare.value.activeTags h).events

theorem handEvents_eq (l : TagLibrary) (h : Hand) :
    l.handEvents h = l.ruleEvents h ++ [.classified l.rules.length (l.activeTags h).value.length
      (l.relevantDocuments h).value.length] := by
  have haborted : (l.prepare.value.activeTags h).aborted = false := aborted_activeAmong _ h
  rw [handEvents, PreparedTags.classify, Logged.events_bind, haborted]
  rfl

theorem ruleEvents_eq (l : TagLibrary) (h : Hand) :
    l.ruleEvents h = l.ruleTags.flatMap fun t =>
      (anyMatches (compileRules (l.rulesOf t)).value h).events := by
  have hprepared : l.ruleEvents h = (activeAmong (compileGroups l.rulesByTag).value h).events := rfl
  rw [hprepared, events_activeAmong, compileGroups_value, rulesByTag_eq, List.map_map,
    List.flatMap_map]
  rfl

theorem filter_isWarning_ruleEvents (l : TagLibrary) (h : Hand) :
    (l.ruleEvents h).filter Event.isWarning = l.ruleTags.flatMap fun t =>
      skips (·.boardFault? h) ((l.soundRules t).takeWhile fun r => ¬ r.Meets h) := by
  rw [ruleEvents_eq, List.filter_flatMap]
  exact List.flatMap_congr fun t _ => filter_isWarning_anyMatches _ h

theorem isSome_rule?_of_mem_ruleEvents {l : TagLibrary} {h : Hand} {e : Event}
    (he : e ∈ l.ruleEvents h) : e.rule?.isSome := by
  rw [ruleEvents_eq] at he
  obtain ⟨t, -, he⟩ := List.mem_flatMap.1 he
  exact isSome_rule?_of_mem_events he

/-- The warnings about one hand are those about its rules. -/
theorem filter_isWarning_handEvents (l : TagLibrary) (h : Hand) :
    (l.handEvents h).filter Event.isWarning = l.ruleTags.flatMap fun t =>
      skips (·.boardFault? h) ((l.soundRules t).takeWhile fun r => ¬ r.Meets h) := by
  rw [handEvents_eq, List.filter_append, filter_isWarning_ruleEvents]
  exact List.append_nil _

/-- A hand is counted once. -/
theorem filter_message_handEvents (l : TagLibrary) (h : Hand) :
    (l.handEvents h).filter (·.message = "classified hand") = [.classified l.rules.length
      (l.activeTags h).value.length (l.relevantDocuments h).value.length] := by
  have hother : ∀ e ∈ l.ruleEvents h, ¬decide (e.message = "classified hand") := by
    intro e he
    have hrule := isSome_rule?_of_mem_ruleEvents he
    cases e with
    | ruleSkipped | conditionSkipped | noFlop | formatGuessed => simp [Event.message]
    | classified | resolved => cases hrule
  rw [handEvents_eq, List.filter_append, List.filter_eq_nil_iff.2 hother]
  rfl

/-- What a batch notes is exact. If a rule breaks off, nothing is noted but the rules before it, by
    tag and then in the order of the library, that have a text that cannot be compiled. Otherwise
    the warnings are first the rules with such a text, once each, whatever the hands are. Then, hand
    by hand and tag by tag, they are the rules whose texts can be compiled that meet a malformed
    flop, in the order of the library and up to the first that the hand meets. Each hand is counted
    once, with the rules of the library, its active tags and its documents. -/
theorem classifyAll_notes (l : TagLibrary) (hands : List Hand) :
    l.ruleTags.Pairwise (· < ·) ∧ (∀ t, t ∈ l.ruleTags ↔ ∃ r ∈ l.rules, r.tag = t) ∧
    ((∃ r ∈ l.rules, r.Aborts) → (l.classifyAll hands).result? = none ∧
      (l.classifyAll hands).events = skips TagRule.firstFault? l.compiledRules) ∧
    ((∀ r ∈ l.rules, ¬ r.Aborts) →
      (l.classifyAll hands).events.filter Event.isWarning =
        (l.ruleTags.flatMap fun t => skips TagRule.firstFault? (l.rulesOf t)) ++
          (hands.flatMap fun h => l.ruleTags.flatMap fun t =>
            skips (·.boardFault? h) ((l.soundRules t).takeWhile fun r => ¬ r.Meets h)) ∧
      (l.classifyAll hands).events =
        (l.ruleTags.flatMap fun t => skips TagRule.firstFault? (l.rulesOf t)) ++
          hands.flatMap l.handEvents) ∧
    ∀ h, ∃ e, (l.handEvents h).filter (·.message = "classified hand") = [e] ∧
      e.isWarning = false ∧
      e.fields = [("rules", toString l.rules.length),
        ("active", toString (l.activeTags h).value.length),
        ("documents", toString (l.relevantDocuments h).value.length)] := by
  have hevents := events_classifyAll l hands
  rw [events_prepare] at hevents
  refine ⟨l.pairwise_ruleTags, fun t => mem_ruleTags, fun haborts => ?_, fun hsound => ?_,
    fun h => ⟨_, filter_message_handEvents l h, rfl, rfl⟩⟩
  · have haborts : l.Aborts := haborts
    rw [if_pos haborts, List.append_nil] at hevents
    exact ⟨Logged.result?_eq_none_iff.2 (aborted_classifyAll_iff.2 haborts), hevents⟩
  · have hnot : ¬ l.Aborts := fun ⟨r, hr, haborts⟩ => hsound r hr haborts
    rw [if_neg hnot, skips_compiledRules hnot] at hevents
    refine ⟨?_, hevents⟩
    rw [hevents, List.filter_append, List.filter_flatMap, List.filter_flatMap]
    simp only [filter_isWarning_skips, filter_isWarning_handEvents]

end TagLibrary

end

namespace TagLibrary

/-- Two tags with rules of which some cannot be compiled and some fail on a malformed flop. -/
def faultyLibrary : TagLibrary where
  rules := [{ id := 1, tag := 2, texture := some "monotone" },
    { id := 2, tag := 2, preflop := some "(" },
    { id := 3, tag := 1, texture := some "paired" },
    { id := 4, tag := 2, players := some 6 },
    { id := 5, tag := 2, texture := some "monotone" },
    { id := 6, tag := 1, gameType := some "[" }]

/-- The fourth rule matches the first hand, so that the fifth is looked at for the second only. -/
theorem classifyAll_notes_faulty :
    (∀ r ∈ faultyLibrary.rules, ¬ r.Aborts) ∧
      ((faultyLibrary.classifyAll
          [spoiltHand, { spoiltHand with players := some 2 }]).events.filter Event.isWarning).map
        Event.rule? = [some 6, some 2, some 3, some 1, some 3, some 1, some 5] := by
  have hsound : ∀ r ∈ faultyLibrary.rules, ¬ r.Aborts := by decide +kernel
  obtain ⟨-, -, -, hnotes, -⟩ :=
    classifyAll_notes faultyLibrary [spoiltHand, { spoiltHand with players := some 2 }]
  obtain ⟨hwarnings, -⟩ := hnotes hsound
  refine ⟨hsound, ?_⟩
  rw [hwarnings]
  decide +kernel

example : (faultyLibrary.classifyAll []).events =
    [.ruleSkipped ⟨6, .badGlob .gameType "["⟩, .ruleSkipped ⟨2, .badPattern .preflop "("⟩] := by
  decide +kernel

/-- Neither the fault of the first rule nor the hand is noted, and nothing comes out. -/
theorem classifyAll_bracedLibrary :
    .braced 300 ∈ bracedLibrary.rules ∧
      (TagRule.braced 300).firstFault? = some (.globTooLarge .gameType (Glob.braced 300)) ∧
      (bracedLibrary.classifyAll [{}]).events = [] ∧
      (bracedLibrary.classifyAll [{}]).result? = none := by
  have haborts : (TagRule.braced 300).Aborts := TagRule.aborts_braced (by decide)
  have hrules : bracedLibrary.compiledRules = [] :=
    List.takeWhile_cons_of_neg (by simpa using haborts)
  refine ⟨List.mem_cons_self, TagRule.firstFault?_braced (by decide), ?_, ?_⟩
  · rw [events_classifyAll, events_prepare, hrules, if_pos aborts_bracedLibrary]
    rfl
  · exact Logged.result?_eq_none_iff.2 (aborted_classifyAll_iff.2 aborts_bracedLibrary)

end TagLibrary

end HandStudy
