import HandStudy.Proofs.Classification
import HandStudy.Proofs.Decode
import HandStudy.Proofs.Floats
import HandStudy.Proofs.Pattern.Matching

/-!
# Rules as conjunctions

A rule of a tag is a conjunction: it matches a hand if the hand meets each of its conditions
(`TagRule.Meets`), and a condition that is not given is none. Two things can go wrong instead. A
text of the rule cannot be compiled, which is found before any hand is looked at
(`TagRule.firstFault?`, `errorOf?_compile`); a glob that is too large then leaves no outcome at all
(`TagRule.aborts_iff`). Or the flop of a hand has a malformed card; that is
only found if the rule asks for a texture and its patterns are found (`TagRule.BoardFails`), as
conditions are checked in order and up to the first that does not hold (`Verdict.value_all_cons`).
What comes after the texture, such as a stack out of bounds, has no part in it.
-/

namespace HandStudy

/-! ## What a rule asks for -/

/-- What a rule gives as a text: the pattern for a street, or a glob. -/
inductive RuleText where
  | pattern (s : Street)
  | glob (field : GlobField)

namespace RuleText

/-- The texts of a rule in the order in which they are read. -/
def all : List RuleText :=
  [.pattern .preflop, .pattern .flop, .pattern .turn, .pattern .river, .glob (.part .gameClass),
    .glob (.part .variant), .glob (.part .tableSize), .glob .gameType]

/-- The text that a rule gives, trimmed, unless it is blank. -/
def given? (r : TagRule) : RuleText → Option String
  | pattern s => r.pattern? s
  | glob (.part p) => r.formatGlob? p
  | glob .gameType => r.gameTypeGlob?

theorem mem_all (t : RuleText) : t ∈ all := by
  rcases t with (_ | _ | _ | _) | (_ | _ | _) | _ <;> simp [all]

end RuleText

/-! ## Checking one condition after another -/

/-- The first condition decides unless it holds. -/
theorem Verdict.value_all_cons (condition : Hand → Verdict) (conditions : List (Hand → Verdict))
    (h : Hand) :
    (Verdict.all (condition :: conditions) h).value =
      if (condition h).value = .ok true then (Verdict.all conditions h).value
      else (condition h).value := by
  rw [Verdict.all, Logged.value_bind]
  cases hc : (condition h).value with
  | error e => simp
  | ok b => cases b <;> simp

/-- All conditions hold if each does. -/
theorem Verdict.value_all_eq_true_iff {conditions : List (Hand → Verdict)} {h : Hand} :
    (Verdict.all conditions h).value = .ok true ↔
      ∀ condition ∈ conditions, (condition h).value = .ok true := by
  induction conditions with
  | nil => simp [Verdict.all]
  | cons condition conditions ih =>
    rw [Verdict.value_all_cons, List.forall_mem_cons, ← ih]
    split <;> simp [*]

/-- Conditions that never fail do not fail together. -/
theorem Verdict.exists_value_all {conditions : List (Hand → Verdict)} {h : Hand}
    (hok : ∀ condition ∈ conditions, ∃ b, (condition h).value = .ok b) :
    ∃ b, (Verdict.all conditions h).value = .ok b := by
  induction conditions with
  | nil => exact ⟨true, rfl⟩
  | cons condition conditions ih =>
    obtain ⟨hcondition, hconditions⟩ := List.forall_mem_cons.1 hok
    rw [Verdict.value_all_cons]
    split
    · exact ih hconditions
    · exact hcondition

/-- The flop has no empty list of texts. -/
theorem Hand.flopTexts_ne_nil {h : Hand} {texts : List String} (ht : h.flopTexts = some texts) :
    texts ≠ [] := by
  have hhistory : h.history.bind FlopText.cards? = some texts → texts ≠ [] := by
    intro hcards
    obtain ⟨history, -, hcards⟩ := Option.bind_eq_some_iff.1 hcards
    rw [FlopText.cards?] at hcards
    split at hcards
    · cases hcards
    · split at hcards
      · cases hcards
      · rename_i hne
        exact Option.some.inj hcards ▸ hne
  rw [flopTexts] at ht
  split at ht
  · exact Option.some.inj ht ▸ List.cons_ne_nil _ _
  · exact hhistory ht

/-- The format is the one that is given, or else the one that is guessed. -/
theorem Hand.format_resolvedFormat (h : Hand) :
    h.resolvedFormat.format = h.format.getD (GameFormat.guess h.gameType h.players) := by
  rw [resolvedFormat]
  cases h.format <;> rfl

namespace CompiledRule

variable {c : CompiledRule} {h : Hand}

theorem checkStreets_value :
    (c.checkStreets h).value = .ok (c.patterns.all fun p => p.2.foundIn (h.sequence p.1)) := rfl

theorem satisfies_iff {names : List String} {tags : List Texture.Tag} :
    Texture.satisfies names tags = true ↔ ∀ name ∈ names, ∃ tag ∈ tags, tag.name = name := by
  simp [Texture.satisfies]

/-- A rule without globs for the format accepts every format. -/
theorem checkFormat_value :
    (c.checkFormat h).value =
      .ok (c.formatGlobs.all fun g => g.2.accepts (h.resolvedFormat.format.part g.1)) := by
  rw [checkFormat]
  split
  · rename_i hempty
    rw [List.isEmpty_iff.1 hempty]
    rfl
  · cases h.resolvedFormat with
    | given f => rfl
    | guessed f => rfl

/-- What is checked after the texture never fails. -/
theorem exists_value_after_texture (c : CompiledRule) (h : Hand) :
    ∃ b, (Verdict.all [c.checkStack, c.checkFormat, c.checkGameType, c.checkPlayers] h).value =
      .ok b := by
  have hstack : ∃ b, (c.checkStack h).value = .ok b := by
    rw [checkStack]
    split
    · exact ⟨_, rfl⟩
    · cases h.stack with
      | none => exact ⟨_, rfl⟩
      | some stack => exact ⟨_, rfl⟩
  refine Verdict.exists_value_all ?_
  simp only [List.forall_mem_cons]
  exact ⟨hstack, ⟨_, checkFormat_value⟩, ⟨_, rfl⟩, ⟨_, rfl⟩, List.forall_mem_nil _⟩

/-- A compiled rule fails on a hand only through its texture, after its patterns. -/
theorem check_eq_error_iff {e : RuleError} :
    (c.check h).value = .error e ↔
      (c.checkStreets h).value = .ok true ∧ (c.checkTexture h).value = .error e := by
  obtain ⟨b, hb⟩ := c.exists_value_after_texture h
  have hstreets : (c.checkStreets h).value ≠ .error e := nofun
  rw [check, Verdict.value_all_cons, Verdict.value_all_cons, hb]
  by_cases hs : (c.checkStreets h).value = .ok true
  · by_cases ht : (c.checkTexture h).value = .ok true <;> simp [hs, ht]
  · simp [hs, hstreets]

end CompiledRule

/-! ## Meeting all conditions -/

/-- What is read of some things one after another, those left out that give nothing. -/
theorem TagRule.mem_filterMap_of_mapM {α β ε : Type} {f : α → Except ε (Option β)} {l : List α}
    {m : List (Option β)} (h : l.mapM f = .ok m) {b : β} :
    (b ∈ m.filterMap fun o => o) ↔ ∃ a ∈ l, f a = .ok (some b) := by
  simp only [List.mem_filterMap, exists_eq_right]
  have hall := Decode.mapM_eq_ok_iff.1 h
  clear h
  induction hall with
  | nil => simp
  | cons hab _ ih => simp [ih, hab, eq_comm]

section

variable [Dialect]

namespace RuleText

/-- What is wrong with a text, if it cannot be compiled. -/
def faultOf? (text : String) : RuleText → Option RuleFault
  | pattern s => if (Dialect.pattern? text).isSome then none else some (.badPattern s text)
  | glob field =>
    match Dialect.readGlob text with
    | .glob _ => none
    | .malformed => some (.badGlob field text)
    | .tooLarge => some (.globTooLarge field text)

/-- What is wrong with the text that a rule gives, if it gives one that cannot be compiled. -/
def fault? (r : TagRule) (t : RuleText) : Option RuleFault :=
  (t.given? r).bind t.faultOf?

/-- Nothing is wrong if the text that is given, if there is one, can be compiled. -/
theorem fault?_eq_none_iff {r : TagRule} {t : RuleText} :
    t.fault? r = none ↔ ∀ text, t.given? r = some text → t.faultOf? text = none := by
  rw [fault?]
  cases t.given? r <;> simp

theorem faultOf?_pattern_eq_none_iff {s : Street} {text : String} :
    (pattern s).faultOf? text = none ↔ ∃ p, Dialect.pattern? text = some p := by
  rw [faultOf?]
  cases Dialect.pattern? text <;> simp

theorem faultOf?_glob_eq_none_iff {field : GlobField} {text : String} :
    (glob field).faultOf? text = none ↔ ∃ g, Dialect.readGlob text = .glob g := by
  rw [faultOf?]
  cases Dialect.readGlob text <;> simp

end RuleText

namespace TagRule

/-- What is wrong with the first text of the rule that cannot be compiled. -/
def firstFault? (r : TagRule) : Option RuleFault :=
  RuleText.all.findSome? (·.fault? r)

/-- Every pattern of the rule occurs in the actions of its street. -/
def PatternsOccur (r : TagRule) (h : Hand) : Prop :=
  ∀ s text, r.pattern? s = some text →
    ∃ pattern, Dialect.pattern? text = some pattern ∧ pattern.Occurs (h.sequence s)

/-- The hand meets every condition that the rule gives. -/
structure Meets (r : TagRule) (h : Hand) : Prop where
  patterns : r.PatternsOccur h
  /-- There is a flop, all of it are cards, and its texture has every name that is asked for. -/
  texture : ∀ names, r.textureNames? = some names →
    ∃ texts board, h.flopTexts = some texts ∧ texts ≠ [] ∧ Card.parseAll texts = .ok board ∧
      ∀ name ∈ names, ∃ tag ∈ Texture.analyze board, tag.name = name
  /-- If there is a bound, then a stack as well, and it is within those that are given. -/
  stack : r.minStack.isSome ∨ r.maxStack.isSome →
    ∃ stack, h.stack = some stack ∧ (∀ least, r.minStack = some least → least ≤ stack) ∧
      ∀ most, r.maxStack = some most → stack ≤ most
  /-- The format that is given, or else the one that is guessed, matches part by part. -/
  format : ∀ p text, r.formatGlob? p = some text →
    ∃ glob, Dialect.readGlob text = .glob glob ∧
      glob.Describes ((h.format.getD (GameFormat.guess h.gameType h.players)).part p)
  /-- There is a free text about the game, if there is a glob for it, and it matches. -/
  gameType : ∀ text, r.gameTypeGlob? = some text →
    ∃ glob game, Dialect.readGlob text = .glob glob ∧ h.gameType = some game ∧ glob.Describes game
  players : ∀ n, r.players = some n → h.players = some n

/-- The rule asks for a texture, its patterns occur, and this is the first of the flop's texts
    that is no card. -/
def BoardFails (r : TagRule) (h : Hand) (e : CardError) : Prop :=
  r.PatternsOccur h ∧ r.textureNames?.isSome ∧
    ∃ texts, h.flopTexts = some texts ∧ Card.parseAll texts = .error e

end TagRule

/-! ## Reading the texts -/

namespace TagRule

theorem errorOf?_compilePattern (r : TagRule) (s : Street) :
    errorOf? (r.compilePattern s) = ((RuleText.pattern s).fault? r).map (RuleError.mk r.id) := by
  rw [compilePattern, RuleText.fault?, RuleText.given?]
  cases r.pattern? s with
  | none => rfl
  | some text =>
    cases hp : Dialect.pattern? text <;> simp [RuleText.faultOf?, errorOf?, hp]

theorem errorOf?_compileGlob (r : TagRule) (field : GlobField) (text : String) :
    errorOf? (r.compileGlob field text) =
      ((RuleText.glob field).faultOf? text).map (RuleError.mk r.id) := by
  rw [compileGlob, RuleText.faultOf?]
  cases Dialect.readGlob text <;> rfl

theorem errorOf?_compileFormatGlob (r : TagRule) (p : GameFormat.Part) :
    errorOf? (r.compileFormatGlob p) =
      ((RuleText.glob (.part p)).fault? r).map (RuleError.mk r.id) := by
  rw [compileFormatGlob, RuleText.fault?, RuleText.given?]
  cases r.formatGlob? p with
  | none => rfl
  | some text =>
    simp only [Option.bind_some]
    rw [← errorOf?_compileGlob]
    cases r.compileGlob (.part p) text <;> rfl

/-- Reads the glob for the free text about the game. -/
def compileGameTypeGlob (r : TagRule) : Except RuleError (Option Glob) :=
  match r.gameTypeGlob? with
  | none => .ok none
  | some text => (r.compileGlob .gameType text).map some

theorem errorOf?_compileGameTypeGlob (r : TagRule) :
    errorOf? r.compileGameTypeGlob =
      ((RuleText.glob .gameType).fault? r).map (RuleError.mk r.id) := by
  rw [compileGameTypeGlob, RuleText.fault?, RuleText.given?]
  cases r.gameTypeGlob? with
  | none => rfl
  | some text =>
    simp only [Option.bind_some]
    rw [← errorOf?_compileGlob]
    cases r.compileGlob .gameType text <;> rfl

/-- The patterns are read, then the globs for the format, then the one for the free text. -/
theorem compile_steps (r : TagRule) :
    r.compile = Street.all.mapM r.compilePattern >>= fun patterns =>
      GameFormat.Part.all.mapM r.compileFormatGlob >>= fun globs =>
      r.compileGameTypeGlob >>= fun glob =>
      .ok ⟨r, patterns.filterMap fun p => p, globs.filterMap fun g => g, glob⟩ := by
  rw [compile, compileGameTypeGlob]
  refine bind_congr fun patterns => bind_congr fun globs => ?_
  cases r.gameTypeGlob? with
  | none => rfl
  | some text => cases h : r.compileGlob .gameType text <;> rfl

/-- A rule is broken by the first of its texts that cannot be compiled. -/
theorem errorOf?_compile (r : TagRule) :
    errorOf? r.compile = r.firstFault?.map (RuleError.mk r.id) := by
  have hall : RuleText.all = Street.all.map .pattern ++
      (GameFormat.Part.all.map (fun p => .glob (.part p)) ++ [.glob .gameType]) := rfl
  have hlast : ∀ patterns globs, errorOf? (r.compileGameTypeGlob >>= fun glob =>
      .ok (⟨r, patterns, globs, glob⟩ : CompiledRule)) = errorOf? r.compileGameTypeGlob := by
    intro patterns globs
    rw [errorOf?_bind (y := none) fun glob => rfl, Option.or_none]
  have hglobs : ∀ patterns, errorOf? (GameFormat.Part.all.mapM r.compileFormatGlob >>= fun globs =>
      r.compileGameTypeGlob >>= fun glob =>
      .ok (⟨r, patterns, globs.filterMap fun g => g, glob⟩ : CompiledRule)) =
        (errorOf? (GameFormat.Part.all.mapM r.compileFormatGlob)).or
          (errorOf? r.compileGameTypeGlob) :=
    fun patterns => errorOf?_bind fun globs => hlast patterns _
  rw [compile_steps, errorOf?_bind fun patterns => hglobs _, errorOf?_mapM, errorOf?_mapM,
    errorOf?_compileGameTypeGlob, firstFault?, hall, List.findSome?_append, List.findSome?_append,
    List.findSome?_map, List.findSome?_map, Option.map_or, Option.map_or, List.map_findSome?,
    List.map_findSome?, List.findSome?_singleton]
  simp only [errorOf?_compilePattern, errorOf?_compileFormatGlob]
  rfl

theorem compilePattern_eq_ok_some_iff {r : TagRule} {s t : Street} {pattern : Pattern} :
    r.compilePattern s = .ok (some (t, pattern)) ↔
      s = t ∧ ∃ text, r.pattern? s = some text ∧ Dialect.pattern? text = some pattern := by
  rw [compilePattern]
  cases r.pattern? s with
  | none => simp
  | some text => cases hp : Dialect.pattern? text <;> simp [hp]

theorem compileFormatGlob_eq_ok_some_iff {r : TagRule} {p q : GameFormat.Part} {glob : Glob} :
    r.compileFormatGlob p = .ok (some (q, glob)) ↔
      p = q ∧ ∃ text, r.formatGlob? p = some text ∧ Dialect.readGlob text = .glob glob := by
  rw [compileFormatGlob]
  cases r.formatGlob? p with
  | none => simp
  | some text => cases hg : Dialect.readGlob text <;> simp [compileGlob, Except.map, hg]

theorem compileGameTypeGlob_eq_ok_some_iff {r : TagRule} {glob : Glob} :
    r.compileGameTypeGlob = .ok (some glob) ↔
      ∃ text, r.gameTypeGlob? = some text ∧ Dialect.readGlob text = .glob glob := by
  rw [compileGameTypeGlob]
  cases r.gameTypeGlob? with
  | none => simp
  | some text => cases hg : Dialect.readGlob text <;> simp [compileGlob, Except.map, hg]

end TagRule

/-- The compiled rule has what the texts of the rule are read as. -/
structure CompiledRule.Reads (c : CompiledRule) (r : TagRule) : Prop where
  rule : c.rule = r
  patterns : ∀ s pattern, (s, pattern) ∈ c.patterns ↔
    ∃ text, r.pattern? s = some text ∧ Dialect.pattern? text = some pattern
  formatGlobs : ∀ p glob, (p, glob) ∈ c.formatGlobs ↔
    ∃ text, r.formatGlob? p = some text ∧ Dialect.readGlob text = .glob glob
  gameTypeGlob : ∀ glob, c.gameTypeGlob = some glob ↔
    ∃ text, r.gameTypeGlob? = some text ∧ Dialect.readGlob text = .glob glob

namespace TagRule

theorem reads_of_compile {r : TagRule} {c : CompiledRule} (h : r.compile = .ok c) : c.Reads r := by
  rw [compile_steps] at h
  obtain ⟨patterns, hpatterns, h⟩ := Decode.bind_eq_ok_iff.1 h
  obtain ⟨globs, hglobs, h⟩ := Decode.bind_eq_ok_iff.1 h
  obtain ⟨glob, hglob, h⟩ := Decode.bind_eq_ok_iff.1 h
  obtain rfl := Except.ok.inj h
  refine ⟨rfl, fun s pattern => ?_, fun p glob => ?_, fun glob' => ?_⟩
  · rw [mem_filterMap_of_mapM hpatterns]
    simp only [compilePattern_eq_ok_some_iff]
    have hs : s ∈ Street.all := by cases s <;> decide
    exact ⟨fun ⟨_, _, rfl, h⟩ => h, fun h => ⟨s, hs, rfl, h⟩⟩
  · rw [mem_filterMap_of_mapM hglobs]
    simp only [compileFormatGlob_eq_ok_some_iff]
    have hp : p ∈ GameFormat.Part.all := by cases p <;> decide
    exact ⟨fun ⟨_, _, rfl, h⟩ => h, fun h => ⟨p, hp, rfl, h⟩⟩
  · rw [← compileGameTypeGlob_eq_ok_some_iff, hglob, Except.ok.injEq]

/-- A rule without a fault in its texts is compiled. -/
theorem exists_reads {r : TagRule} (hr : r.firstFault? = none) :
    ∃ c, r.compile = .ok c ∧ c.Reads r := by
  have hnone : errorOf? r.compile = none := by rw [errorOf?_compile, hr, Option.map_none]
  obtain ⟨c, hc⟩ := errorOf?_eq_none_iff.1 hnone
  exact ⟨c, hc, reads_of_compile hc⟩

/-- Nothing is wrong with any text that a rule without a fault gives. -/
theorem faultOf?_of_given {r : TagRule} (hr : r.firstFault? = none) {t : RuleText}
    {text : String} (h : t.given? r = some text) : t.faultOf? text = none :=
  RuleText.fault?_eq_none_iff.1 (List.findSome?_eq_none_iff.1 hr t t.mem_all) text h

theorem exists_pattern {r : TagRule} (hr : r.firstFault? = none) {s : Street} {text : String}
    (h : r.pattern? s = some text) : ∃ pattern, Dialect.pattern? text = some pattern :=
  RuleText.faultOf?_pattern_eq_none_iff.1 (faultOf?_of_given (t := .pattern s) hr h)

theorem exists_formatGlob {r : TagRule} (hr : r.firstFault? = none) {p : GameFormat.Part}
    {text : String} (h : r.formatGlob? p = some text) : ∃ glob, Dialect.readGlob text = .glob glob :=
  RuleText.faultOf?_glob_eq_none_iff.1 (faultOf?_of_given (t := .glob (.part p)) hr h)

theorem exists_gameTypeGlob {r : TagRule} (hr : r.firstFault? = none) {text : String}
    (h : r.gameTypeGlob? = some text) : ∃ glob, Dialect.readGlob text = .glob glob :=
  RuleText.faultOf?_glob_eq_none_iff.1 (faultOf?_of_given (t := .glob .gameType) hr h)

end TagRule

namespace CompiledRule

variable {c : CompiledRule} {r : TagRule} {h : Hand}

theorem checkStreets_iff (hc : c.Reads r) (hr : r.firstFault? = none) :
    (c.checkStreets h).value = .ok true ↔ r.PatternsOccur h := by
  rw [checkStreets_value, Except.ok.injEq, List.all_eq_true]
  constructor
  · intro hall s text ht
    obtain ⟨pattern, hp⟩ := TagRule.exists_pattern hr ht
    have hfound := hall (s, pattern) ((hc.patterns s pattern).2 ⟨text, ht, hp⟩)
    exact ⟨pattern, hp, Pattern.foundIn_iff_occurs.1 hfound⟩
  · rintro hall ⟨s, pattern⟩ hmem
    obtain ⟨text, ht, hp⟩ := (hc.patterns s pattern).1 hmem
    obtain ⟨pattern', hp', hoccurs⟩ := hall s text ht
    obtain rfl : pattern = pattern' := Option.some.inj (hp.symm.trans hp')
    exact Pattern.foundIn_iff_occurs.2 hoccurs

theorem checkTexture_iff (hc : c.Reads r) :
    (c.checkTexture h).value = .ok true ↔ ∀ names, r.textureNames? = some names →
      ∃ texts board, h.flopTexts = some texts ∧ texts ≠ [] ∧ Card.parseAll texts = .ok board ∧
        ∀ name ∈ names, ∃ tag ∈ Texture.analyze board, tag.name = name := by
  rw [checkTexture, hc.rule, Hand.flopBoard]
  cases hn : r.textureNames? with
  | none => simp
  | some names =>
    simp only [Option.some.injEq, forall_eq']
    cases ht : h.flopTexts with
    | none => simp
    | some texts =>
      have hne := Hand.flopTexts_ne_nil ht
      cases hb : Card.parseAll texts with
      | error e => simp [Except.mapError, hb]
      | ok board => simp [Except.mapError, hb, hne, satisfies_iff]

theorem checkTexture_eq_error_iff (hc : c.Reads r) {e : RuleError} :
    (c.checkTexture h).value = .error e ↔
      r.textureNames?.isSome ∧ ∃ texts card, h.flopTexts = some texts ∧
        Card.parseAll texts = .error card ∧ e = ⟨r.id, .badBoard card⟩ := by
  rw [checkTexture, hc.rule, Hand.flopBoard]
  cases hn : r.textureNames? with
  | none => simp
  | some names =>
    cases ht : h.flopTexts with
    | none => simp
    | some texts => cases hb : Card.parseAll texts <;> simp [Except.mapError, hb, eq_comm]

theorem checkStack_iff (hc : c.Reads r) :
    (c.checkStack h).value = .ok true ↔ (r.minStack.isSome ∨ r.maxStack.isSome →
      ∃ stack, h.stack = some stack ∧ (∀ least, r.minStack = some least → least ≤ stack) ∧
        ∀ most, r.maxStack = some most → stack ≤ most) := by
  rw [checkStack, hc.rule]
  cases r.minStack <;> cases r.maxStack <;> cases h.stack <;> simp

theorem checkFormat_iff (hc : c.Reads r) (hr : r.firstFault? = none) :
    (c.checkFormat h).value = .ok true ↔ ∀ p text, r.formatGlob? p = some text →
      ∃ glob, Dialect.readGlob text = .glob glob ∧
        glob.Describes ((h.format.getD (GameFormat.guess h.gameType h.players)).part p) := by
  rw [checkFormat_value, Except.ok.injEq, List.all_eq_true, Hand.format_resolvedFormat]
  constructor
  · intro hall p text ht
    obtain ⟨glob, hg⟩ := TagRule.exists_formatGlob hr ht
    have haccepts := hall (p, glob) ((hc.formatGlobs p glob).2 ⟨text, ht, hg⟩)
    exact ⟨glob, hg, Glob.accepts_iff_describes.1 haccepts⟩
  · rintro hall ⟨p, glob⟩ hmem
    obtain ⟨text, ht, hg⟩ := (hc.formatGlobs p glob).1 hmem
    obtain ⟨glob', hg', hdescribes⟩ := hall p text ht
    obtain rfl : glob = glob' := GlobReading.glob.inj (hg.symm.trans hg')
    exact Glob.accepts_iff_describes.2 hdescribes

theorem checkGameType_iff (hc : c.Reads r) (hr : r.firstFault? = none) :
    (c.checkGameType h).value = .ok true ↔ ∀ text, r.gameTypeGlob? = some text →
      ∃ glob game, Dialect.readGlob text = .glob glob ∧ h.gameType = some game ∧
        glob.Describes game := by
  have hglob := hc.gameTypeGlob
  rw [checkGameType]
  cases ht : r.gameTypeGlob? with
  | none =>
    have hnone : c.gameTypeGlob = none := by
      refine Option.eq_none_iff_forall_not_mem.2 fun glob hmem => ?_
      obtain ⟨text, htext, -⟩ := (hglob glob).1 hmem
      exact nomatch ht.symm.trans htext
    simp [hnone]
  | some text =>
    obtain ⟨glob, hg⟩ := TagRule.exists_gameTypeGlob hr ht
    have hsome : c.gameTypeGlob = some glob := (hglob glob).2 ⟨text, ht, hg⟩
    simp [hsome, hg, Option.any_eq_true, Glob.accepts_iff_describes]

theorem checkPlayers_iff (hc : c.Reads r) :
    (c.checkPlayers h).value = .ok true ↔ ∀ n, r.players = some n → h.players = some n := by
  rw [checkPlayers, hc.rule]
  cases r.players <;> simp

end CompiledRule

namespace TagRule

variable {r : TagRule} {h : Hand}

theorem compile_of_firstFault? {fault : RuleFault} (hr : r.firstFault? = some fault) :
    r.compile = .error ⟨r.id, fault⟩ := by
  rw [← errorOf?_eq_some_iff, errorOf?_compile, hr, Option.map_some]

theorem matchesHand_of_firstFault? {fault : RuleFault} (hr : r.firstFault? = some fault) :
    (r.matchesHand h).value = .error ⟨r.id, fault⟩ :=
  value_matchesHand_of_error (compile_of_firstFault? hr) h

/-- Only a glob that is too large breaks off, and only if it is the first fault. -/
theorem aborts_iff : r.Aborts ↔ ∃ fault, r.firstFault? = some fault ∧ fault.isFatal := by
  rw [Aborts]
  constructor
  · rintro ⟨e, he, hfatal⟩
    rw [← errorOf?_eq_some_iff, errorOf?_compile, Option.map_eq_some_iff] at he
    obtain ⟨fault, hfault, rfl⟩ := he
    exact ⟨fault, hfault, hfatal⟩
  · rintro ⟨fault, hfault, hfatal⟩
    exact ⟨_, compile_of_firstFault? hfault, hfatal⟩

theorem result?_matchesHand_of_firstFault? {fault : RuleFault} (hr : r.firstFault? = some fault) :
    (r.matchesHand h).result? =
      if fault.isFatal then none else some (.error ⟨r.id, fault⟩) := by
  have habort : (r.matchesHand h).aborted ↔ fault.isFatal := by
    rw [aborted_matchesHand_iff, aborts_iff, hr]
    simp
  rw [Logged.result?, matchesHand_of_firstFault? hr]
  exact if_congr habort rfl rfl

theorem result?_matchesHand (hr : r.firstFault? = none) :
    (r.matchesHand h).result? = some (r.matchesHand h).value := by
  refine if_neg fun habort => ?_
  obtain ⟨fault, hfault, -⟩ := aborts_iff.1 (aborted_matchesHand_iff.1 habort)
  exact nomatch hr.symm.trans hfault

theorem matchesHand_eq_true_iff (hr : r.firstFault? = none) :
    (r.matchesHand h).value = .ok true ↔ r.Meets h := by
  obtain ⟨c, hcompile, hc⟩ := exists_reads hr
  have hcheck := value_matchesHand_of_ok hcompile h
  rw [hcheck, CompiledRule.check, Verdict.value_all_eq_true_iff]
  simp only [List.forall_mem_cons, CompiledRule.checkStreets_iff hc hr,
    CompiledRule.checkTexture_iff hc, CompiledRule.checkStack_iff hc,
    CompiledRule.checkFormat_iff hc hr, CompiledRule.checkGameType_iff hc hr,
    CompiledRule.checkPlayers_iff hc]
  constructor
  · rintro ⟨hpatterns, htexture, hstack, hformat, hgame, hplayers, -⟩
    exact ⟨hpatterns, htexture, hstack, hformat, hgame, hplayers⟩
  · rintro ⟨hpatterns, htexture, hstack, hformat, hgame, hplayers⟩
    exact ⟨hpatterns, htexture, hstack, hformat, hgame, hplayers, List.forall_mem_nil _⟩

theorem matchesHand_eq_error_iff (hr : r.firstFault? = none) {e : RuleError} :
    (r.matchesHand h).value = .error e ↔
      ∃ card, r.BoardFails h card ∧ e = ⟨r.id, .badBoard card⟩ := by
  obtain ⟨c, hcompile, hc⟩ := exists_reads hr
  have hcheck := value_matchesHand_of_ok hcompile h
  rw [hcheck, CompiledRule.check_eq_error_iff, CompiledRule.checkStreets_iff hc hr,
    CompiledRule.checkTexture_eq_error_iff hc]
  constructor
  · rintro ⟨hpatterns, htexture, texts, card, htexts, hcard, he⟩
    exact ⟨card, ⟨hpatterns, htexture, texts, htexts, hcard⟩, he⟩
  · rintro ⟨card, ⟨hpatterns, htexture, texts, htexts, hcard⟩, he⟩
    exact ⟨hpatterns, htexture, texts, card, htexts, hcard, he⟩

/-- Of a stack that is within bounds neither the bounds nor the stack are no numbers. -/
theorem Meets.isNaN_eq_false (hmeets : r.Meets h) (hbound : r.minStack.isSome ∨ r.maxStack.isSome)
    {x : Float} (hx : r.minStack = some x ∨ r.maxStack = some x ∨ h.stack = some x) :
    x.isNaN = false := by
  obtain ⟨stack, hstack, hleast, hmost⟩ := hmeets.stack hbound
  rcases hx with hx | hx | hx
  · exact (Floats.isNaN_eq_false_of_le (hleast x hx)).1
  · exact (Floats.isNaN_eq_false_of_le (hmost x hx)).2
  · obtain rfl : stack = x := Option.some.inj (hstack.symm.trans hx)
    rcases hbound with hbound | hbound
    · obtain ⟨least, hl⟩ := Option.isSome_iff_exists.1 hbound
      exact (Floats.isNaN_eq_false_of_le (hleast least hl)).2
    · obtain ⟨most, hm⟩ := Option.isSome_iff_exists.1 hbound
      exact (Floats.isNaN_eq_false_of_le (hmost most hm)).1

/-- A rule is the conjunction of the conditions that it gives. If a text of it cannot be compiled,
    then the first such text is the error on every hand; only if it is a glob that is too large
    there is no outcome, on no hand. Otherwise the rule matches a hand if and only if the hand meets
    all conditions; and it fails on a hand if and only if it asks for a texture, its patterns occur
    and the flop has a text that is no card, whatever the other conditions say. What is no number,
    be it a bound or the stack, is within no bounds. -/
theorem matchesHand_conjunction (r : TagRule) :
    (∀ fault, r.firstFault? = some fault → ∀ h, (r.matchesHand h).result? =
      if fault.isFatal then none else some (.error ⟨r.id, fault⟩)) ∧
    (r.firstFault? = none → ∀ h,
      ((r.matchesHand h).result? = some (.ok true) ↔ r.Meets h) ∧
      (∀ e, (r.matchesHand h).result? = some (.error e) ↔
        ∃ card, r.BoardFails h card ∧ e = ⟨r.id, .badBoard card⟩) ∧
      ((r.matchesHand h).result? = some (.ok false) ↔
        ¬r.Meets h ∧ ∀ card, ¬r.BoardFails h card)) ∧
    (∀ h x, r.minStack.isSome ∨ r.maxStack.isSome →
      r.minStack = some x ∨ r.maxStack = some x ∨ h.stack = some x → x.isNaN = true →
      ¬r.Meets h) := by
  refine ⟨fun fault hr h => result?_matchesHand_of_firstFault? hr, fun hr h => ?_, ?_⟩
  · simp only [result?_matchesHand hr, Option.some.injEq]
    have htrue := matchesHand_eq_true_iff (h := h) hr
    have herror := fun e => matchesHand_eq_error_iff (h := h) (e := e) hr
    refine ⟨htrue, herror, ?_⟩
    rw [← htrue]
    cases hv : (r.matchesHand h).value with
    | ok b =>
      have hboard : ∀ card, ¬r.BoardFails h card := fun card hcard => by
        have := (herror _).2 ⟨card, hcard, rfl⟩
        rw [hv] at this
        cases this
      cases b <;> simp [hboard]
    | error e =>
      obtain ⟨card, hcard, -⟩ := (herror e).1 hv
      exact ⟨nofun, fun hnone => absurd hcard (hnone.2 card)⟩
  · intro h x hbound hx hnan hmeets
    rw [hmeets.isNaN_eq_false hbound hx] at hnan
    cases hnan

end TagRule

end

namespace TagRule

/-- A rule that asks for actions before the flop, a texture, a stack and players. -/
def raisedMonotone : TagRule where
  id := 1
  tag := 10
  preflop := some " 3r4c "
  texture := some "monotone, J-high"
  minStack := some 85.0
  maxStack := some 98.5
  players := some 6

/-- A hand of six players on three diamonds. -/
def diamondsHand : Hand where
  preflop := "1f2f3r4c5f6f"
  flopCards := some ["Jd", "3d", "5d"]
  stack := some 98.5
  players := some 6

/-- The rule matches the hand. Without its stack the hand does not meet the rule, and with a text
    that is no card the rule fails even so. Of a pattern and a glob that are both broken, the
    pattern is the error. -/
theorem matchesHand_conjunction_raised :
    (raisedMonotone.firstFault? = none ∧ raisedMonotone.Meets diamondsHand ∧
      ¬raisedMonotone.Meets { diamondsHand with stack := none } ∧
      ∃ card, raisedMonotone.BoardFails
        { diamondsHand with stack := none, flopCards := some ["Jd", "Zd", "5d"] } card) ∧
    ({ raisedMonotone with gameClass := some "[", river := some "(" }.matchesHand {}).result? =
      some (.error ⟨1, .badPattern .river "("⟩) := by
  have hsound : raisedMonotone.firstFault? = none := by decide +kernel
  have hmatch : (raisedMonotone.matchesHand diamondsHand).result? = some (.ok true) := by
    decide +kernel
  have hshort : (raisedMonotone.matchesHand { diamondsHand with stack := none }).result? =
      some (.ok false) := by decide +kernel
  have hboard : (raisedMonotone.matchesHand
      { diamondsHand with stack := none, flopCards := some ["Jd", "Zd", "5d"] }).result? =
        some (.error ⟨1, .badBoard ⟨"Zd", .rank⟩⟩) := by decide +kernel
  have hbroken : { raisedMonotone with gameClass := some "[", river := some "(" }.firstFault? =
      some (.badPattern .river "(") := by decide +kernel
  have hchecked := (matchesHand_conjunction raisedMonotone).2.1 hsound
  refine ⟨⟨hsound, (hchecked _).1.1 hmatch, ((hchecked _).2.2.1 hshort).1, ?_⟩,
    (matchesHand_conjunction _).1 _ hbroken {}⟩
  obtain ⟨card, hcard, -⟩ := ((hchecked _).2.1 _).1 hboard
  exact ⟨card, hcard⟩

/-- A glob that is too large is a fault of the rule. -/
theorem firstFault?_braced {n : Nat} (hn : Glob.maxDepth < n + 2) :
    (braced n).firstFault? = some (.globTooLarge .gameType (Glob.braced n)) := by
  have hfault := errorOf?_compile (braced n)
  rw [compile_braced hn] at hfault
  obtain ⟨fault, hfault, he⟩ := Option.map_eq_some_iff.1 hfault.symm
  rw [hfault, (RuleError.mk.inj he).2]

/-- A rule whose glob is well formed, and too large, neither matches nor fails on a hand. -/
theorem matchesHand_braced :
    (Glob.ofString? (Glob.braced 300)).isSome ∧
      (braced 300).firstFault? = some (.globTooLarge .gameType (Glob.braced 300)) ∧
      ∀ h, ((braced 300).matchesHand h).result? = none := by
  refine ⟨by rw [Glob.ofString?_braced]; rfl, firstFault?_braced (by decide), fun h => ?_⟩
  exact Logged.result?_eq_none_iff.2 (aborted_matchesHand_iff.2 (aborts_braced (by decide)))

end TagRule

end HandStudy
