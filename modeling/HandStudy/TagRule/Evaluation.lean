import HandStudy.Dialect
import HandStudy.Event
import HandStudy.TagRule

/-!
# Evaluating tag rules

A rule is compiled once, which finds every fault in its patterns and globs
(`TagRule.compile`), and then checked against any number of hands
(`CompiledRule.check`). A glob that is too large for a matcher is no fault that
is foreseen, and evaluation breaks off when it is met (`TagRule.build`). The
conditions are checked one after the other and the first that does not hold settles
the matter, so that later ones are not looked at. Only a flop with a malformed card
is an error at that stage.
-/

namespace HandStudy

/-- A rule with its patterns and globs read. -/
structure CompiledRule where
  rule : TagRule
  patterns : List (Street × Pattern)
  formatGlobs : List (GameFormat.Part × Glob)
  gameTypeGlob : Option Glob

variable [Dialect]

namespace TagRule

/-- Reads the pattern for a street. -/
def compilePattern (r : TagRule) (s : Street) : Except RuleError (Option (Street × Pattern)) :=
  match r.pattern? s with
  | none => .ok none
  | some text =>
    match Dialect.pattern? text with
    | some pattern => .ok (some (s, pattern))
    | none => .error ⟨r.id, .badPattern s text⟩

/-- Reads a glob. -/
def compileGlob (r : TagRule) (field : GlobField) (text : String) : Except RuleError Glob :=
  match Dialect.readGlob text with
  | .glob glob => .ok glob
  | .malformed => .error ⟨r.id, .badGlob field text⟩
  | .tooLarge => .error ⟨r.id, .globTooLarge field text⟩

/-- Reads the glob for a part of the format. -/
def compileFormatGlob (r : TagRule) (p : GameFormat.Part) :
    Except RuleError (Option (GameFormat.Part × Glob)) :=
  match r.formatGlob? p with
  | none => .ok none
  | some text => (r.compileGlob (.part p) text).map fun glob => some (p, glob)

/-- Reads all patterns and globs: those of the streets first, then those of the
    format, at last the one about the game. The first bad one is the error. -/
def compile (r : TagRule) : Except RuleError CompiledRule := do
  let patterns ← Street.all.mapM r.compilePattern
  let formatGlobs ← GameFormat.Part.all.mapM r.compileFormatGlob
  let gameTypeGlob ← match r.gameTypeGlob? with
    | none => pure none
    | some text => some <$> r.compileGlob .gameType text
  return ⟨r, patterns.filterMap fun p => p, formatGlobs.filterMap fun g => g, gameTypeGlob⟩

/-- Compiles the rule for an evaluation, which a glob that is too large breaks off. -/
def build (r : TagRule) : Logged (Except RuleError CompiledRule) :=
  match r.compile with
  | .ok c => return .ok c
  | .error e => do
    Logged.abortIf e.fault.isFatal
    return .error e

/-- A glob of the rule is too large, and no text before it has a fault. -/
def Aborts (r : TagRule) : Prop :=
  ∃ e, r.compile = .error e ∧ e.fault.isFatal

@[simp] theorem value_build (r : TagRule) : r.build.value = r.compile := by
  rw [build]
  cases r.compile <;> rfl

@[simp] theorem events_build (r : TagRule) : r.build.events = [] := by
  rw [build]
  cases r.compile with
  | ok c => rfl
  | error e => exact ite_self []

theorem aborted_build_iff {r : TagRule} : r.build.aborted ↔ r.Aborts := by
  rw [build, Aborts]
  cases r.compile with
  | ok c => simp
  | error e => simp [Logged.abortIf]

instance (r : TagRule) : Decidable r.Aborts :=
  decidable_of_iff (r.build.aborted = true) aborted_build_iff

end TagRule

/-- Whether something holds, if that can be told. -/
abbrev Verdict := Logged (Except RuleError Bool)

/-- Do all conditions hold? They are looked at in order, up to the first that does
    not hold. -/
def Verdict.all : List (Hand → Verdict) → Hand → Verdict
  | [], _ => return .ok true
  | condition :: conditions, h => do
    match ← condition h with
    | .ok true => Verdict.all conditions h
    | verdict => return verdict

namespace CompiledRule

/-- Are the patterns found in the actions of their streets? -/
def checkStreets (c : CompiledRule) (h : Hand) : Verdict :=
  return .ok (c.patterns.all fun (s, pattern) => pattern.foundIn (h.sequence s))

/-- Has the flop the texture that is needed? -/
def checkTexture (c : CompiledRule) (h : Hand) : Verdict :=
  match c.rule.textureNames? with
  | none => return .ok true
  | some names =>
    match h.flopBoard with
    | .ok board => return .ok (Texture.satisfies names (Texture.analyze board))
    | .error .missing => do
      Logged.note (.noFlop c.rule.id)
      return .ok false
    | .error (.badCard e) => return .error ⟨c.rule.id, .badBoard e⟩

/-- Is the stack within the bounds? A stack that is no number is not, if there is a
    bound. -/
def checkStack (c : CompiledRule) (h : Hand) : Verdict :=
  if c.rule.minStack.isNone && c.rule.maxStack.isNone then return .ok true
  else match h.stack with
    | none => return .ok false
    | some stack =>
      return .ok (c.rule.minStack.all (· ≤ stack) && c.rule.maxStack.all (stack ≤ ·))

/-- Does the format match the globs for its parts? -/
def checkFormat (c : CompiledRule) (h : Hand) : Verdict :=
  if c.formatGlobs.isEmpty then return .ok true
  else do
    let resolved := h.resolvedFormat
    if resolved.isApproximate then Logged.note (.formatGuessed c.rule.id)
    return .ok (c.formatGlobs.all fun (p, glob) => glob.accepts (resolved.format.part p))

/-- Does the free text about the game match its glob? -/
def checkGameType (c : CompiledRule) (h : Hand) : Verdict :=
  return .ok (c.gameTypeGlob.all fun glob => h.gameType.any glob.accepts)

/-- Is the number of players the one that is asked for? -/
def checkPlayers (c : CompiledRule) (h : Hand) : Verdict :=
  return .ok (c.rule.players.all fun n => h.players = some n)

/-- Does the hand meet all conditions of the rule? -/
def check (c : CompiledRule) : Hand → Verdict :=
  Verdict.all
    [c.checkStreets, c.checkTexture, c.checkStack, c.checkFormat, c.checkGameType, c.checkPlayers]

end CompiledRule

/-- Does the rule match the hand? -/
def TagRule.matchesHand (r : TagRule) (h : Hand) : Verdict := do
  match ← r.build with
  | .ok c => c.check h
  | .error e => return .error e

end HandStudy
