import HandStudy.Classification
import HandStudy.Proofs.Glob
import HandStudy.Proofs.Ordered
import Mathlib.Data.Option.NAry

/-!
# Classification rule by rule

The tags of a hand come out of rules that are grouped, compiled, dropped when they are
broken, and tried up to the first match. None of that shows: a tag is active exactly
when one of its rules, looked at alone, matches (`mem_activeTags`). As the active tags
are listed in order, this determines the list.

What shows is a glob that is too large. Whichever rule it is in, and whatever the other
rules and the hands are, nothing comes out (`TagLibrary.aborted_activeTags_iff`,
`TagLibrary.aborted_classifyAll_iff`).
-/

namespace HandStudy

/-! ## Compiled rules -/

/-- Once a rule is compiled nothing breaks off. -/
theorem Verdict.aborted_all {conditions : List (Hand → Verdict)} {h : Hand}
    (hall : ∀ condition ∈ conditions, (condition h).aborted = false) :
    (Verdict.all conditions h).aborted = false := by
  induction conditions with
  | nil => rfl
  | cons condition conditions ih =>
    obtain ⟨hcondition, hconditions⟩ := List.forall_mem_cons.1 hall
    rw [Verdict.all, Logged.aborted_bind, hcondition, Bool.false_or]
    split
    · exact ih hconditions
    · rfl

namespace CompiledRule

variable {c : CompiledRule} {h : Hand}

theorem aborted_checkTexture : (c.checkTexture h).aborted = false := by
  rw [checkTexture]
  split
  · rfl
  · split <;> rfl

theorem aborted_checkStack : (c.checkStack h).aborted = false := by
  rw [checkStack]
  split
  · rfl
  · split <;> rfl

theorem aborted_checkFormat : (c.checkFormat h).aborted = false := by
  rw [checkFormat]
  split
  · rfl
  · cases hformat : h.resolvedFormat.isApproximate <;> simp [hformat]

@[simp] theorem aborted_check (c : CompiledRule) (h : Hand) : (c.check h).aborted = false := by
  refine Verdict.aborted_all ?_
  simp only [List.mem_cons, List.not_mem_nil, or_false, forall_eq_or_imp, forall_eq]
  exact ⟨rfl, aborted_checkTexture, aborted_checkStack, aborted_checkFormat, rfl, rfl⟩

end CompiledRule

@[simp] theorem aborted_anyMatches (rules : List CompiledRule) (h : Hand) :
    (anyMatches rules h).aborted = false := by
  induction rules with
  | nil => rfl
  | cons c rules ih =>
    rw [anyMatches, Logged.aborted_bind, c.aborted_check, Bool.false_or]
    split
    · rfl
    · exact ih
    · simp [ih]

@[simp] theorem aborted_activeAmong (groups : List (Int64 × List CompiledRule)) (h : Hand) :
    (activeAmong groups h).aborted = false := by
  induction groups with
  | nil => rfl
  | cons g groups ih => simp [activeAmong, ih]

@[simp] theorem PreparedTags.aborted_classify (p : PreparedTags) (h : Hand) :
    (p.classify h).aborted = false := by
  simp [PreparedTags.classify, PreparedTags.activeTags]

/-- One of several compiled rules matches when one of them alone does. A rule that
    fails on the hand hides none of those after it. -/
theorem anyMatches_iff {rules : List CompiledRule} {h : Hand} :
    (anyMatches rules h).value = true ↔ ∃ c ∈ rules, (c.check h).value = .ok true := by
  induction rules with
  | nil => simp [anyMatches]
  | cons c rules ih =>
    rw [anyMatches, Logged.value_bind]
    cases hc : (c.check h).value with
    -- A failure is passed over, as a rule that does not match is.
    | error e => simp [hc, ih]
    | ok b => cases b <;> simp [hc, ih]

/-- The active tags are those of the groups with a match, in the order of the groups. -/
theorem activeAmong_value (groups : List (Int64 × List CompiledRule)) (h : Hand) :
    (activeAmong groups h).value =
      (groups.filter fun g => (anyMatches g.2 h).value).map (·.1) := by
  induction groups with
  | nil => rfl
  | cons g groups ih =>
    rw [activeAmong]
    by_cases hg : (anyMatches g.2 h).value = true <;> simp [hg, ih]

section

variable [Dialect]

/-! ## Breaking off -/

/-- Rules are compiled up to the first one that breaks off. -/
theorem aborted_compileRules_iff {rules : List TagRule} :
    (compileRules rules).aborted ↔ ∃ r ∈ rules, r.Aborts := by
  induction rules with
  | nil => simp [compileRules]
  | cons r rules ih =>
    have hrest : (compileRules (r :: rules)).aborted =
        (r.build.aborted || (compileRules rules).aborted) := by
      rw [compileRules, Logged.aborted_bind, TagRule.value_build]
      cases r.compile <;> simp
    rw [hrest, Bool.or_eq_true, TagRule.aborted_build_iff, ih, List.exists_mem_cons_iff]

theorem aborted_compileGroups_iff {groups : List (Int64 × List TagRule)} :
    (compileGroups groups).aborted ↔ ∃ g ∈ groups, ∃ r ∈ g.2, r.Aborts := by
  induction groups with
  | nil => simp [compileGroups]
  | cons g groups ih => simp [compileGroups, ih, aborted_compileRules_iff]

namespace TagLibrary

variable {l : TagLibrary}

/-- Some rule of the library breaks off. -/
def Aborts (l : TagLibrary) : Prop :=
  ∃ r ∈ l.rules, r.Aborts

instance (l : TagLibrary) : Decidable l.Aborts :=
  List.decidableBEx TagRule.Aborts l.rules

theorem aborted_prepare_iff : l.prepare.aborted ↔ l.Aborts := by
  have hprepare : l.prepare.aborted = (compileGroups l.rulesByTag).aborted := Bool.or_false _
  rw [hprepare, aborted_compileGroups_iff, Aborts]
  -- Every rule is in the group of its tag.
  constructor
  · rintro ⟨g, hg, r, hr, haborts⟩
    obtain ⟨t, -, rfl⟩ := List.mem_map.1 hg
    exact ⟨r, List.mem_of_mem_filter hr, haborts⟩
  · rintro ⟨r, hr, haborts⟩
    refine ⟨(r.tag, l.rules.filter (·.tag = r.tag)), List.mem_map.2 ⟨r.tag, ?_, rfl⟩, r, ?_, haborts⟩
    · exact Ordered.mem_ofList.2 (List.mem_map_of_mem hr)
    · exact List.mem_filter.2 ⟨hr, decide_eq_true rfl⟩

theorem aborted_activeTags_iff {h : Hand} : (l.activeTags h).aborted ↔ l.Aborts := by
  rw [activeTags, Logged.aborted_bind, PreparedTags.activeTags, aborted_activeAmong,
    Bool.or_false, aborted_prepare_iff]

theorem aborted_relevantDocuments_iff {h : Hand} :
    (l.relevantDocuments h).aborted ↔ l.Aborts := by
  rw [relevantDocuments, Logged.aborted_bind, Logged.aborted_pure, Bool.or_false,
    aborted_activeTags_iff]

theorem aborted_classify_iff {h : Hand} : (l.classify h).aborted ↔ l.Aborts := by
  rw [classify, Logged.aborted_bind, PreparedTags.aborted_classify, Bool.or_false,
    aborted_prepare_iff]

/-- A batch breaks off whatever its hands are, and even if there are none. -/
theorem aborted_classifyAll_iff {hands : List Hand} :
    (l.classifyAll hands).aborted ↔ l.Aborts := by
  rw [classifyAll, Logged.aborted_bind,
    Logged.aborted_mapM fun h => PreparedTags.aborted_classify _ h, Bool.or_false,
    aborted_prepare_iff]

end TagLibrary

/-! ## Matching -/

/-- A rule matches: it is not broken and the hand meets all its conditions. -/
def TagRule.Matches (r : TagRule) (h : Hand) : Prop :=
  (r.matchesHand h).value = .ok true

theorem TagRule.value_matchesHand_of_ok {r : TagRule} {c : CompiledRule} (hc : r.compile = .ok c)
    (h : Hand) : (r.matchesHand h).value = (c.check h).value := by
  rw [matchesHand, Logged.value_bind, value_build, hc]

theorem TagRule.value_matchesHand_of_error {r : TagRule} {e : RuleError}
    (he : r.compile = .error e) (h : Hand) : (r.matchesHand h).value = .error e := by
  rw [matchesHand, Logged.value_bind, value_build, he]
  rfl

theorem TagRule.aborted_matchesHand_iff {r : TagRule} {h : Hand} :
    (r.matchesHand h).aborted ↔ r.Aborts := by
  rw [matchesHand, Logged.aborted_bind, value_build, Bool.or_eq_true, aborted_build_iff]
  refine or_iff_left ?_
  cases r.compile <;> simp

/-- A rule that matches does not break off. -/
theorem TagRule.matches_iff_result? {r : TagRule} {h : Hand} :
    r.Matches h ↔ (r.matchesHand h).result? = some (.ok true) := by
  rw [Logged.result?_eq_some_iff]
  refine ⟨fun hm => ⟨?_, hm⟩, And.right⟩
  rw [← Bool.not_eq_true, aborted_matchesHand_iff]
  rintro ⟨e, he, -⟩
  exact nomatch (value_matchesHand_of_error he h).symm.trans hm

/-- The rules that are left are the compiled forms of those that can be compiled, in order. -/
theorem compileRules_value (rules : List TagRule) :
    (compileRules rules).value = rules.filterMap (·.compile.toOption) := by
  induction rules with
  | nil => rfl
  | cons r rules ih =>
    rw [compileRules, Logged.value_bind, TagRule.value_build, List.filterMap_cons]
    cases r.compile with
    | ok c => simp [Except.toOption, ih]
    | error e => simp [Except.toOption, ih]

theorem mem_compileRules {rules : List TagRule} {c : CompiledRule} :
    c ∈ (compileRules rules).value ↔ ∃ r ∈ rules, r.compile = .ok c := by
  rw [compileRules_value, List.mem_filterMap]
  refine exists_congr fun r => and_congr_right fun _ => ?_
  cases r.compile <;> simp [Except.toOption]

/-- Every group is compiled by itself. -/
theorem compileGroups_value (groups : List (Int64 × List TagRule)) :
    (compileGroups groups).value = groups.map fun g => (g.1, (compileRules g.2).value) := by
  induction groups with
  | nil => rfl
  | cons g groups ih => simp [compileGroups, ih]

/-- Compiling and checking a rule is what matching is. -/
theorem exists_compile_check_iff {r : TagRule} {h : Hand} :
    (∃ c, r.compile = .ok c ∧ (c.check h).value = .ok true) ↔ r.Matches h := by
  rw [TagRule.Matches]
  cases hr : r.compile with
  | ok c => simp [TagRule.value_matchesHand_of_ok hr]
  | error e => simp [TagRule.value_matchesHand_of_error hr]

/-- One of several rules, the broken ones dropped, matches when one of them alone
    does. -/
theorem anyMatches_compileRules_iff {rules : List TagRule} {h : Hand} :
    (anyMatches (compileRules rules).value h).value = true ↔ ∃ r ∈ rules, r.Matches h := by
  rw [anyMatches_iff]
  constructor
  · rintro ⟨c, hc, hm⟩
    obtain ⟨r, hr, hrc⟩ := mem_compileRules.1 hc
    exact ⟨r, hr, exists_compile_check_iff.1 ⟨c, hrc, hm⟩⟩
  · rintro ⟨r, hr, hm⟩
    obtain ⟨c, hrc, hm⟩ := exists_compile_check_iff.2 hm
    exact ⟨c, mem_compileRules.2 ⟨r, hr, hrc⟩, hm⟩

namespace TagLibrary

/-- The active tags are those tags of rules, in order, of which a rule matches. -/
theorem activeTags_value (l : TagLibrary) (h : Hand) :
    (l.activeTags h).value = (Ordered.ofList (l.rules.map TagRule.tag)).filter fun t =>
      (anyMatches (compileRules (l.rules.filter (·.tag = t))).value h).value := by
  have hvalue : (l.activeTags h).value =
      (activeAmong (compileGroups l.rulesByTag).value h).value := rfl
  rw [hvalue, activeAmong_value, compileGroups_value, rulesByTag, Ordered.groupBy, List.map_map,
    List.filter_map, List.map_map]
  exact List.map_id _

/-- A tag is active exactly when one of its rules matches. -/
theorem mem_activeTags {l : TagLibrary} {h : Hand} {t : Int64} :
    t ∈ (l.activeTags h).value ↔ ∃ r ∈ l.rules, r.tag = t ∧ r.Matches h := by
  rw [activeTags_value, List.mem_filter, anyMatches_compileRules_iff, Ordered.mem_ofList]
  constructor
  · rintro ⟨-, r, hr, hm⟩
    rw [List.mem_filter, decide_eq_true_eq] at hr
    exact ⟨r, hr.1, hr.2, hm⟩
  · rintro ⟨r, hr, rfl, hm⟩
    exact ⟨List.mem_map_of_mem hr, r, by simpa using hr, hm⟩

/-- The active tags are listed in order, each once. -/
theorem pairwise_activeTags (l : TagLibrary) (h : Hand) :
    (l.activeTags h).value.Pairwise (· < ·) :=
  l.activeTags_value h ▸ (Ordered.pairwise_ofList _).filter _

/-- Libraries in which rules of the same tags match have the same active tags. -/
theorem activeTags_congr {l m : TagLibrary} {h : Hand}
    (hlm : ∀ t, (∃ r ∈ l.rules, r.tag = t ∧ r.Matches h) ↔ ∃ r ∈ m.rules, r.tag = t ∧ r.Matches h) :
    (l.activeTags h).value = (m.activeTags h).value :=
  (l.pairwise_activeTags h).eq_of_mem_iff (m.pairwise_activeTags h) fun t => by
    rw [mem_activeTags, mem_activeTags, hlm t]

/-- The active tags of two lists of rules together are those of either. -/
theorem activeTags_append (l : TagLibrary) (h : Hand) (rules rules' : List TagRule) :
    ({ l with rules := rules ++ rules' }.activeTags h).value =
      Ordered.union ({ l with rules }.activeTags h).value
        ({ l with rules := rules' }.activeTags h).value := by
  -- Both sides are in order, so they are equal if they have the same members.
  refine (pairwise_activeTags _ h).eq_of_mem_iff
    (Ordered.pairwise_union (pairwise_activeTags _ h)) fun t => ?_
  rw [Ordered.mem_union, mem_activeTags, mem_activeTags, mem_activeTags]
  simp only [List.mem_append, or_and_right, exists_or]

/-- A rule that is broken on a hand has no part in its active tags. -/
theorem activeTags_erase_broken {l : TagLibrary} {h : Hand} {before after : List TagRule}
    {r : TagRule} {e : RuleError} (hl : l.rules = before ++ r :: after)
    (he : (r.matchesHand h).value = .error e) :
    (l.activeTags h).value = ({ l with rules := before ++ after }.activeTags h).value := by
  -- A rule that fails does not match, so it makes no tag active.
  have hr : ¬r.Matches h := by simp [TagRule.Matches, he]
  refine activeTags_congr fun t => ?_
  rw [hl]
  simp only [List.mem_append, List.mem_cons]
  constructor
  · rintro ⟨q, hq | rfl | hq, ht, hm⟩
    · exact ⟨q, .inl hq, ht, hm⟩
    · exact absurd hm hr
    · exact ⟨q, .inr hq, ht, hm⟩
  · rintro ⟨q, hq | hq, ht, hm⟩
    · exact ⟨q, .inl hq, ht, hm⟩
    · exact ⟨q, .inr (.inr hq), ht, hm⟩

/-- A hand is classified by its active tags. -/
theorem classify_value (l : TagLibrary) (h : Hand) :
    (l.classify h).value =
      ⟨(l.activeTags h).value,
        (l.activeTags h).value.filterMap fun id => (l.tag? id).map Tag.name,
        l.documentsForAll (l.activeTags h).value⟩ := rfl

/-- The tags of a classification are those of which a rule matches. -/
theorem mem_tags_classify {l : TagLibrary} {h : Hand} {t : Int64} :
    t ∈ (l.classify h).value.tags ↔ ∃ r ∈ l.rules, r.tag = t ∧ r.Matches h := by
  rw [classify_value, mem_activeTags]

/-- A batch of hands is classified hand by hand. -/
theorem classifyAll_value (l : TagLibrary) (hands : List Hand) :
    (l.classifyAll hands).value = hands.map fun h => (l.classify h).value := by
  rw [classifyAll, Logged.value_bind, Logged.value_mapM]
  rfl

theorem result?_classifyAll (l : TagLibrary) (hands : List Hand) :
    (l.classifyAll hands).result? =
      if l.Aborts then none else some (hands.map fun h => (l.classify h).value) := by
  rw [Logged.result?, classifyAll_value]
  exact if_congr aborted_classifyAll_iff rfl rfl

theorem result?_activeTags (l : TagLibrary) (h : Hand) :
    (l.activeTags h).result? = if l.Aborts then none else some (l.activeTags h).value := by
  rw [Logged.result?]
  exact if_congr aborted_activeTags_iff rfl rfl

/-- A library whose rules are broken off by others comes to nothing, and so does one with
    more rules. -/
theorem result?_activeTags_append (l : TagLibrary) (h : Hand) (rules rules' : List TagRule) :
    ({ l with rules := rules ++ rules' }.activeTags h).result? =
      Option.map₂ Ordered.union ({ l with rules }.activeTags h).result?
        ({ l with rules := rules' }.activeTags h).result? := by
  have haborts : Aborts { l with rules := rules ++ rules' } ↔
      Aborts { l with rules } ∨ Aborts { l with rules := rules' } := by
    simp only [Aborts, List.mem_append, or_and_right, exists_or]
  simp only [result?_activeTags, haborts, activeTags_append]
  by_cases hleft : Aborts { l with rules }
  · simp [hleft]
  · by_cases hright : Aborts { l with rules := rules' } <;> simp [hleft, hright]

/-- The rules of a library are alternatives, each by itself, unless one of them breaks off
    as its glob is too large: then there is no answer, for no hand and no batch. Otherwise
    a tag is active exactly when one of its rules matches; so two lists of rules together
    give the tags that either gives, a rule that is broken on a hand might as well not be
    there, and the order of the rules does not matter. A batch of hands, for which the rules
    are compiled once, is classified hand by hand. -/
theorem activeTags_alternatives (l : TagLibrary) (h : Hand) :
    ((l.activeTags h).result? = none ↔ ∃ r ∈ l.rules, r.Aborts) ∧
    (∀ tags, (l.activeTags h).result? = some tags →
      ∀ t, t ∈ tags ↔ ∃ r ∈ l.rules, r.tag = t ∧ (r.matchesHand h).result? = some (.ok true)) ∧
    (∀ rules rules', ({ l with rules := rules ++ rules' }.activeTags h).result? =
      Option.map₂ Ordered.union ({ l with rules }.activeTags h).result?
        ({ l with rules := rules' }.activeTags h).result?) ∧
    (∀ before r after e, l.rules = before ++ r :: after →
      (r.matchesHand h).result? = some (.error e) →
      (l.activeTags h).result? = ({ l with rules := before ++ after }.activeTags h).result?) ∧
    (∀ rules, rules.Perm l.rules →
      ({ l with rules }.activeTags h).result? = (l.activeTags h).result?) ∧
    ∀ hands, ((l.classifyAll hands).result? = none ↔ ∃ r ∈ l.rules, r.Aborts) ∧
      ∀ results, (l.classifyAll hands).result? = some results →
        hands.mapM (fun h => (l.classify h).result?) = some results := by
  refine ⟨Logged.result?_eq_none_iff.trans aborted_activeTags_iff, fun tags htags t => ?_,
    result?_activeTags_append l h, fun before r after e hl he => ?_, fun rules hrules => ?_,
    fun hands => ⟨Logged.result?_eq_none_iff.trans aborted_classifyAll_iff,
      fun results hresults => ?_⟩⟩
  · obtain ⟨-, rfl⟩ := Logged.result?_eq_some_iff.1 htags
    simp only [mem_activeTags, TagRule.matches_iff_result?]
  -- A rule that gives an error has not broken off, so it does not stop the others either.
  · obtain ⟨hnot, he⟩ := Logged.result?_eq_some_iff.1 he
    rw [← Bool.not_eq_true, TagRule.aborted_matchesHand_iff] at hnot
    have haborts : l.Aborts ↔ Aborts { l with rules := before ++ after } := by
      simp only [Aborts, hl, List.mem_append, List.mem_cons, or_and_right, exists_or,
        exists_eq_left, hnot, false_or]
    simp only [result?_activeTags, haborts, activeTags_erase_broken hl he]
  · have haborts : Aborts { l with rules } ↔ l.Aborts := by
      simp only [Aborts, hrules.mem_iff]
    have hvalue : ({ l with rules }.activeTags h).value = (l.activeTags h).value :=
      activeTags_congr fun t => by simp only [hrules.mem_iff]
    simp only [result?_activeTags, haborts, hvalue]
  · obtain ⟨hnot, rfl⟩ := Logged.result?_eq_some_iff.1 hresults
    rw [← Bool.not_eq_true, aborted_classifyAll_iff] at hnot
    have hhand (h : Hand) : (l.classify h).result? = some (l.classify h).value :=
      if_neg fun habort => hnot (aborted_classify_iff.1 habort)
    simp only [hhand, classifyAll_value]
    exact List.mapM_pure

end TagLibrary

end

namespace TagLibrary

/-- A hand of six players with a malformed board. -/
def spoiltHand : Hand where
  flopCards := some ["Xx", "Kh", "2h"]
  players := some 6

/-- Three rules: one with a broken pattern, a sibling that is sound, and one of another
    tag that fails on a malformed board. -/
def mixedRules : List TagRule :=
  [{ id := 1, tag := 1, preflop := some "(" },
   { id := 2, tag := 1, players := some 6 },
   { id := 3, tag := 2, texture := some "monotone" }]

/-- The broken pattern does not hide the sibling, and the order does not matter. -/
theorem activeTags_mixedRules :
    ({ rules := mixedRules : TagLibrary }.activeTags spoiltHand).result? = some [1] ∧
    (∃ r ∈ mixedRules, r.tag = 1 ∧ (r.matchesHand spoiltHand).result? = some (.ok true)) ∧
    ({ rules := mixedRules : TagLibrary }.activeTags spoiltHand).result? =
      ({ rules := mixedRules.tail : TagLibrary }.activeTags spoiltHand).result? ∧
    ({ rules := mixedRules.reverse : TagLibrary }.activeTags spoiltHand).result? =
      ({ rules := mixedRules : TagLibrary }.activeTags spoiltHand).result? := by
  have htags : ({ rules := mixedRules : TagLibrary }.activeTags spoiltHand).result? = some [1] := by
    decide +kernel
  obtain ⟨-, hmem, -, hbroken, hperm, -⟩ :=
    activeTags_alternatives { rules := mixedRules } spoiltHand
  refine ⟨htags, (hmem _ htags 1).1 (List.mem_singleton_self 1), ?_, ?_⟩
  · exact hbroken [] { id := 1, tag := 1, preflop := some "(" } mixedRules.tail
      ⟨1, .badPattern .preflop "("⟩ rfl (by decide +kernel)
  · exact hperm _ (List.reverse_perm _)

end TagLibrary

/-- A rule about a word in braces, which are so many that there is no matcher. -/
def TagRule.braced (n : Nat) : TagRule :=
  { id := 1, tag := 1, gameType := some (Glob.braced n) }

theorem TagRule.compile_braced {n : Nat} (hn : Glob.maxDepth < n + 2) :
    (braced n).compile = .error ⟨1, .globTooLarge .gameType (Glob.braced n)⟩ := by
  have htext : (braced n).gameTypeGlob? = some (Glob.braced n) := Glob.trim?_braced n
  have hglob : (braced n).compileGlob .gameType (Glob.braced n) =
      .error ⟨1, .globTooLarge .gameType (Glob.braced n)⟩ := by
    rw [compileGlob, Glob.readGlob_braced, if_neg (Nat.not_le.2 hn)]
    rfl
  -- It is the only text of the rule.
  have hpatterns : Street.all.mapM (braced n).compilePattern = .ok [none, none, none, none] := rfl
  have hformat : GameFormat.Part.all.mapM (braced n).compileFormatGlob =
      .ok [none, none, none] := rfl
  rw [compile, hpatterns, hformat, htext]
  simp only [bind, Except.bind, hglob]
  rfl

theorem TagRule.aborts_braced {n : Nat} (hn : Glob.maxDepth < n + 2) : (braced n).Aborts :=
  ⟨_, compile_braced hn, rfl⟩

namespace TagLibrary

/-- A library with such a rule, and one of another tag that matches every hand. -/
def bracedLibrary : TagLibrary where
  rules := [.braced 300, { id := 2, tag := 2 }]

theorem aborts_bracedLibrary : bracedLibrary.Aborts :=
  ⟨.braced 300, List.mem_cons_self, TagRule.aborts_braced (by decide)⟩

/-- The first rule takes the tag of the second from every hand, as nothing comes out. -/
theorem activeTags_bracedLibrary :
    { id := 2, tag := 2 } ∈ bracedLibrary.rules ∧
      (∀ h, (TagRule.matchesHand { id := 2, tag := 2 } h).result? = some (.ok true)) ∧
      (∀ h, (bracedLibrary.activeTags h).result? = none) ∧
      (∀ h, ({ rules := bracedLibrary.rules.tail : TagLibrary }.activeTags h).result? =
        some [2]) ∧
      ∀ hands, (bracedLibrary.classifyAll hands).result? = none := by
  have hsecond : { id := 2, tag := 2 } ∈ bracedLibrary.rules :=
    List.mem_cons_of_mem _ List.mem_cons_self
  refine ⟨hsecond, fun _ => rfl, fun h => ?_, fun h => ?_, fun hands => ?_⟩
  · exact Logged.result?_eq_none_iff.2 (aborted_activeTags_iff.2 aborts_bracedLibrary)
  · rfl
  · exact Logged.result?_eq_none_iff.2 (aborted_classifyAll_iff.2 aborts_bracedLibrary)

end TagLibrary

end HandStudy
