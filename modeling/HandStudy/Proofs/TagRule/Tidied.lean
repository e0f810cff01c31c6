import HandStudy.Proofs.TagRule
import HandStudy.Proofs.Text.Blank

/-!
# Blank fields

Of its texts a rule uses what is left of them when they are trimmed, and of the list of names for
the texture the entries. So a rule is the same as the one with its texts trimmed and those that are
blank left out (`TagRule.tidied`): two rules that are read alike (`TagRule.Alike`) are compiled with
the same outcome (`Alike.compile`) and match the same hands (`Alike.matchesHand`). A rule is without
conditions exactly if nothing is left of it then (`isWildcard_iff`).
-/

namespace HandStudy.TagRule

/-! ## Tidying -/

/-- A text without the blanks at its ends, unless nothing else is in it. -/
def tidiedText (field : Option String) : Option String :=
  field.bind fun s => if Text.trim s = "" then none else some (Text.trim s)

/-- A list of nothing but commas and blanks. -/
def NamesNothing (list : String) : Prop :=
  ∀ c ∈ list.toList, c = ',' ∨ Text.isBlank c

instance (list : String) : Decidable (NamesNothing list) :=
  List.decidableBAll (fun c => c = ',' ∨ Text.isBlank c) list.toList

/-- The rule with its patterns and globs trimmed, without those that are blank, and without a list
    for the texture that names nothing. -/
def tidied (r : TagRule) : TagRule :=
  { r with
    preflop := tidiedText r.preflop
    flop := tidiedText r.flop
    turn := tidiedText r.turn
    river := tidiedText r.river
    texture := r.texture.filter fun list => ¬ NamesNothing list
    gameClass := tidiedText r.gameClass
    variant := tidiedText r.variant
    tableSize := tidiedText r.tableSize
    gameType := tidiedText r.gameType }

/-- The rule with all its conditions taken away. -/
def unconditional (r : TagRule) : TagRule :=
  { id := r.id, tag := r.tag, description := r.description }

theorem tidiedText_eq (field : Option String) : tidiedText field = field.bind Text.trim? :=
  congrArg field.bind (funext fun s => (Text.trim?_eq s).symm)

/-- What is left of a text when it is trimmed is all of it the second time. -/
theorem bind_trim?_tidiedText (field : Option String) :
    (tidiedText field).bind Text.trim? = field.bind Text.trim? := by
  rw [← tidiedText_eq, ← tidiedText_eq]
  cases field with
  | none => rfl
  | some s =>
    simp only [tidiedText, Option.bind_some]
    split
    · rfl
    · rename_i hs
      rw [Option.bind_some, Text.trim_trim, if_neg hs]

/-- A list that names nothing is none. -/
theorem textureNames?_eq_none_iff {r : TagRule} :
    r.textureNames? = none ↔ r.texture.filter (fun list => ¬ NamesNothing list) = none := by
  have hnames (list : String) : Texture.parseList list = [] ↔ NamesNothing list := by
    rw [NamesNothing, ← Text.listEntries_eq_nil_iff, Texture.parseList]
    simp only [List.eq_nil_iff_forall_not_mem, Ordered.mem_ofList]
  rw [textureNames?]
  cases r.texture with
  | none => simp
  | some list =>
    rw [Option.filter_eq_none_iff]
    simp only [Option.map_some, Option.some.injEq, forall_eq', ← hnames]
    cases Texture.parseList list <;> simp

/-! ## Rules that are read alike -/

/-- What is read of two rules of one id, and so what they ask for, is the same. -/
structure Alike (r s : TagRule) : Prop where
  id : s.id = r.id
  pattern? : ∀ street, s.pattern? street = r.pattern? street
  formatGlob? : ∀ p, s.formatGlob? p = r.formatGlob? p
  gameTypeGlob? : s.gameTypeGlob? = r.gameTypeGlob?
  textureNames? : s.textureNames? = r.textureNames?
  minStack : s.minStack = r.minStack
  maxStack : s.maxStack = r.maxStack
  players : s.players = r.players

namespace Alike

variable {r s : TagRule}

theorem isWildcard (h : Alike r s) : s.isWildcard = r.isWildcard := by
  simp only [TagRule.isWildcard, h.pattern?, h.formatGlob?, h.gameTypeGlob?, h.textureNames?,
    h.minStack, h.maxStack, h.players]

/-- The same texts are read, or the same one cannot be compiled. -/
theorem compile [Dialect] (h : Alike r s) :
    s.compile = r.compile.map fun c => { c with rule := s } := by
  have hpattern : s.compilePattern = r.compilePattern := by
    funext street
    simp only [compilePattern, h.pattern?, h.id]
  have hglob : s.compileGlob = r.compileGlob := by
    funext field text
    simp only [compileGlob, h.id]
  have hformat : s.compileFormatGlob = r.compileFormatGlob := by
    funext p
    simp only [compileFormatGlob, h.formatGlob?, hglob]
  have hgame : s.compileGameTypeGlob = r.compileGameTypeGlob := by
    simp only [compileGameTypeGlob, h.gameTypeGlob?, hglob]
  rw [compile_steps, compile_steps, hpattern, hformat, hgame]
  cases Street.all.mapM r.compilePattern with
  | error e => rfl
  | ok patterns =>
    cases GameFormat.Part.all.mapM r.compileFormatGlob with
    | error e => rfl
    | ok globs => cases r.compileGameTypeGlob <;> rfl

/-- The conditions are the same, too, which are not read as patterns or globs. -/
theorem check (h : Alike r s) {c : CompiledRule} (hc : c.rule = r) :
    ({ c with rule := s } : CompiledRule).check = c.check := by
  have htexture : ({ c with rule := s } : CompiledRule).checkTexture = c.checkTexture := by
    funext hand
    simp only [CompiledRule.checkTexture, hc, h.textureNames?, h.id]
  have hstack : ({ c with rule := s } : CompiledRule).checkStack = c.checkStack := by
    funext hand
    simp only [CompiledRule.checkStack, hc, h.minStack, h.maxStack]
  have hformat : ({ c with rule := s } : CompiledRule).checkFormat = c.checkFormat := by
    funext hand
    simp only [CompiledRule.checkFormat, hc, h.id]
  have hplayers : ({ c with rule := s } : CompiledRule).checkPlayers = c.checkPlayers := by
    funext hand
    simp only [CompiledRule.checkPlayers, hc, h.players]
  rw [CompiledRule.check, CompiledRule.check, htexture, hstack, hformat, hplayers]
  rfl

/-- Every hand is answered the same, with the same events. -/
theorem matchesHand [Dialect] (h : Alike r s) (hand : Hand) :
    s.matchesHand hand = r.matchesHand hand := by
  have hcompile := h.compile
  rw [TagRule.matchesHand, TagRule.matchesHand, build, build]
  cases hr : r.compile with
  | error e =>
    rw [hr] at hcompile
    rw [hcompile]
    rfl
  | ok c =>
    rw [hr] at hcompile
    rw [hcompile]
    exact congrFun (h.check (reads_of_compile hr).rule) hand

end Alike

/-- A list that names something is kept, and one that does not asks for nothing anyway. -/
theorem textureNames?_tidied (r : TagRule) : r.tidied.textureNames? = r.textureNames? := by
  have htexture : r.tidied.texture = r.texture.filter fun list => ¬ NamesNothing list := rfl
  cases hkept : r.texture.filter fun list => ¬ NamesNothing list with
  | none =>
    rw [textureNames?_eq_none_iff.2 hkept, textureNames?, htexture, hkept]
    rfl
  | some list =>
    have hlist : r.texture = some list := (Option.filter_eq_some_iff.1 hkept).1
    rw [textureNames?, textureNames?, htexture, hkept, hlist]

theorem alike_tidied (r : TagRule) : Alike r r.tidied where
  id := rfl
  pattern? street := by cases street <;> exact bind_trim?_tidiedText _
  formatGlob? p := by cases p <;> exact bind_trim?_tidiedText _
  gameTypeGlob? := bind_trim?_tidiedText _
  textureNames? := textureNames?_tidied r
  minStack := rfl
  maxStack := rfl
  players := rfl

/-! ## Rules without conditions -/

theorem isWildcard_iff {r : TagRule} : r.isWildcard = true ↔ r.tidied = r.unconditional := by
  simp only [isWildcard, Bool.and_eq_true, Option.isNone_iff_eq_none, textureNames?_eq_none_iff,
    Street.all, GameFormat.Part.all, List.all_cons, List.all_nil, and_true, and_assoc,
    tidied, unconditional, TagRule.mk.injEq, true_and, tidiedText_eq]
  exact Iff.rfl

section

variable [Dialect]

theorem matchesHand_unconditional (r : TagRule) (h : Hand) :
    r.unconditional.matchesHand h = pure (.ok true) := rfl

/-- A rule without conditions matches every hand, and nothing is noted about it. -/
theorem matchesHand_of_isWildcard {r : TagRule} (hr : r.isWildcard = true) (h : Hand) :
    r.matchesHand h = pure (.ok true) := by
  rw [← (alike_tidied r).matchesHand, isWildcard_iff.1 hr, matchesHand_unconditional]

theorem exists_compile_of_isWildcard {r : TagRule} (hr : r.isWildcard = true) :
    ∃ c, r.compile = .ok c := by
  have hcompile := (alike_tidied r).compile
  rw [isWildcard_iff.1 hr] at hcompile
  cases hc : r.compile with
  | ok c => exact ⟨c, rfl⟩
  | error e =>
    rw [hc] at hcompile
    cases hcompile

/-- A blank text of a rule is as good as none, and so are the blanks around another. With its texts
    trimmed, those that are blank left out, and without a list for the texture that names nothing,
    the rule has conditions if and only if it had any, asks for the same texture, is compiled to
    the same patterns and globs or has the same fault, and is answered the same by every hand. It
    is without conditions if and only if nothing is left in it then; and in this case it is compiled
    and matches every hand, whatever is in it. -/
theorem tidied_evaluates_alike (r : TagRule) :
    r.tidied.isWildcard = r.isWildcard ∧
    r.tidied.textureNames? = r.textureNames? ∧
    r.tidied.compile = r.compile.map (fun c => { c with rule := r.tidied }) ∧
    (∀ h, r.tidied.matchesHand h = r.matchesHand h) ∧
    (r.isWildcard = true ↔ r.tidied = r.unconditional) ∧
    (r.isWildcard = true →
      (∃ c, r.compile = .ok c) ∧ ∀ h, r.matchesHand h = pure (.ok true)) := by
  have halike := alike_tidied r
  refine ⟨halike.isWildcard, halike.textureNames?, halike.compile, halike.matchesHand,
    isWildcard_iff, fun hr => ?_⟩
  exact ⟨exists_compile_of_isWildcard hr, matchesHand_of_isWildcard hr⟩

end

/-- A rule that has blank texts only, of blanks of all kinds. -/
def blankRule : TagRule where
  id := 1
  tag := 10
  preflop := some "\u3000 "
  river := some ""
  texture := some " ,\u00a0,"
  gameClass := some "\t\n"
  gameType := some "\u2003"

/-- The rule matches a hand whose flop is malformed and whose stack is no number. With a pattern
    that cannot be compiled, blanks around it, its fault is that of the trimmed pattern. -/
theorem tidied_evaluates_alike_blank :
    blankRule.isWildcard = true ∧ blankRule.tidied = { id := 1, tag := 10 } ∧
      (∃ c, blankRule.compile = .ok c) ∧
      blankRule.matchesHand { flopCards := some ["Zd"], stack := some (0.0 / 0.0) } =
        pure (.ok true) ∧
      ({ blankRule with river := some " (\u3000" }.tidied.matchesHand {}).value =
        .error ⟨1, .badPattern .river "("⟩ := by
  have hwildcard : blankRule.isWildcard = true := by decide +kernel
  have hbroken : ({ blankRule with river := some " (\u3000" }.matchesHand {}).value =
      .error ⟨1, .badPattern .river "("⟩ := by decide +kernel
  obtain ⟨-, -, -, -, hbare, hmatches⟩ := tidied_evaluates_alike blankRule
  obtain ⟨hcompile, hhands⟩ := hmatches hwildcard
  obtain ⟨-, -, -, htidied, -⟩ :=
    tidied_evaluates_alike { blankRule with river := some " (\u3000" }
  refine ⟨hwildcard, hbare.1 hwildcard, hcompile, hhands _, ?_⟩
  rw [htidied, hbroken]

end HandStudy.TagRule
