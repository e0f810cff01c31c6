import HandStudy.Library.Snapshot
import HandStudy.Proofs.Classification
import HandStudy.Proofs.Decode
import HandStudy.Proofs.Json.Numeric
import HandStudy.Store.Basic

/-!
# Stored bounds

Of a rule only the bounds of the stack may be stored as others: a zero loses its sign, which no
comparison shows, and what is no number is lost. A rule whose bounds are numbers matches the
same hands when it has been stored (`TagRule.Numeric.matches_stored_iff`), and all rules of a
snapshot that is read from a text are such rules (`Snapshot.numeric_of_read`).
-/

namespace HandStudy

/-- A number is stored as one that is on the same side of every number. -/
theorem exists_storedStack {x : Float} (h : x.isNaN = false) :
    ∃ y, storedStack x = some y ∧ ∀ z, (y ≤ z ↔ x ≤ z) ∧ (z ≤ y ↔ z ≤ x) := by
  rw [storedStack, h, if_neg Bool.false_ne_true]
  by_cases hzero : x == 0.0
  · exact ⟨0.0, if_pos hzero, Floats.le_congr_of_beq_zero hzero⟩
  · exact ⟨x, if_neg hzero, fun z => ⟨.rfl, .rfl⟩⟩

namespace TagRule

variable {r : TagRule}

/-- The bounds of the rule are numbers. -/
def Numeric (r : TagRule) : Prop :=
  ∀ x, r.minStack = some x ∨ r.maxStack = some x → x.isNaN = false

/-- The stack is within the bounds that are stored if it is within those of the rule. -/
theorem Numeric.checkStack_stored (h : r.Numeric) (patterns : List (Street × Pattern))
    (globs : List (GameFormat.Part × Glob)) (glob : Option Glob) :
    CompiledRule.checkStack ⟨r.stored, patterns, globs, glob⟩ =
      CompiledRule.checkStack ⟨r, patterns, globs, glob⟩ := by
  have hbound {bound : Option Float} (hbound : ∀ x, bound = some x → x.isNaN = false) :
      (bound.bind storedStack).isNone = bound.isNone ∧
        ∀ z, (bound.bind storedStack).all (· ≤ z) = bound.all (· ≤ z) ∧
          (bound.bind storedStack).all (z ≤ ·) = bound.all (z ≤ ·) := by
    cases bound with
    | none => exact ⟨rfl, fun z => ⟨rfl, rfl⟩⟩
    | some x =>
      obtain ⟨y, hy, hsame⟩ := exists_storedStack (hbound x rfl)
      rw [Option.bind_some, hy]
      exact ⟨rfl, fun z => ⟨decide_eq_decide.2 (hsame z).1, decide_eq_decide.2 (hsame z).2⟩⟩
  obtain ⟨hmin, hleast⟩ := hbound fun x hx => h x (.inl hx)
  obtain ⟨hmax, hmost⟩ := hbound fun x hx => h x (.inr hx)
  funext hand
  simp only [CompiledRule.checkStack, stored, hmin, hmax, hleast, hmost]

section

variable [Dialect]

/-- The patterns and globs of a rule, all read. -/
def readings (r : TagRule) :
    Except RuleError (List (Street × Pattern) × List (GameFormat.Part × Glob) × Option Glob) := do
  let patterns ← Street.all.mapM r.compilePattern
  let formatGlobs ← GameFormat.Part.all.mapM r.compileFormatGlob
  let gameTypeGlob ← match r.gameTypeGlob? with
    | none => pure none
    | some text => some <$> r.compileGlob .gameType text
  return (patterns.filterMap fun p => p, formatGlobs.filterMap fun g => g, gameTypeGlob)

/-- A rule is compiled by reading its patterns and globs. -/
theorem compile_eq (r : TagRule) :
    r.compile = r.readings.map fun (patterns, globs, glob) => ⟨r, patterns, globs, glob⟩ := by
  rw [compile, readings]
  cases Street.all.mapM r.compilePattern with
  | error e => rfl
  | ok patterns =>
    cases GameFormat.Part.all.mapM r.compileFormatGlob with
    | error e => rfl
    | ok globs =>
      cases r.gameTypeGlob? with
      | none => rfl
      | some text =>
        simp only [bind, Except.bind, Functor.map]
        cases r.compileGlob .gameType text <;> rfl

/-- A rule that is stored breaks off as it did. -/
theorem aborts_stored_iff : r.stored.Aborts ↔ r.Aborts := by
  -- No pattern or glob is about the stack.
  have hreadings : r.stored.readings = r.readings := rfl
  rw [Aborts, Aborts, compile_eq, compile_eq, hreadings]
  cases r.readings <;> simp [Except.map]

/-- A rule that is stored matches the same hands. -/
theorem Numeric.matches_stored_iff (h : r.Numeric) (hand : Hand) :
    r.stored.Matches hand ↔ r.Matches hand := by
  have hcompile := compile_eq r
  have hstored : r.stored.compile = r.readings.map fun (patterns, globs, glob) =>
      ⟨r.stored, patterns, globs, glob⟩ := compile_eq r.stored
  rw [Matches, Matches]
  cases hr : r.readings with
  | error e =>
    rw [hr] at hcompile hstored
    rw [value_matchesHand_of_error hcompile, value_matchesHand_of_error hstored]
  | ok parts =>
    obtain ⟨patterns, globs, glob⟩ := parts
    rw [hr] at hcompile hstored
    have hcheck : CompiledRule.check ⟨r.stored, patterns, globs, glob⟩ =
        CompiledRule.check ⟨r, patterns, globs, glob⟩ := by
      rw [CompiledRule.check, CompiledRule.check, h.checkStack_stored]
      rfl
    rw [value_matchesHand_of_ok hcompile, value_matchesHand_of_ok hstored, hcheck]

end

end TagRule

/-! ## Rules that are read -/

/-- What every member of a record keeps holds of a record decoded from a value in which all
    floats are numbers. -/
theorem Decode.Record.decode_induction_of_numeric {α : Type} {r : Record α} {P : α → Prop}
    (hput : ∀ m ∈ r.members, m.Keeps P Json.Numeric) (hblank : P r.blank) {v : Json}
    (hv : v.Numeric) {a : α} (ha : r.decode v = .ok a) : P a := by
  refine decode_induction hput hblank ?_ ?_ ha
  · rintro items rfl
    cases hv with
    | arr hitems => exact hitems
  · rintro fields rfl
    cases hv with
    | obj hfields => exact hfields

/-- A bound that is read is a number. -/
theorem TagRule.isNaN_of_decode {v : Json} (hv : v.Numeric) {bound : Option Float}
    (h : Decode.nullable Decode.float v = .ok bound) :
    ∀ x, bound = some x → x.isNaN = false := by
  rintro x rfl
  cases hv with
  | null => cases h
  | float hx =>
    obtain rfl := Option.some.inj (Except.ok.inj h)
    exact hx
  | int n =>
    obtain rfl := Option.some.inj (Except.ok.inj h)
    split
    · exact Floats.isNaN_neg (Floats.isNaN_toFloat _)
    · exact Floats.isNaN_toFloat _
  | bool | str | arr | obj | void => cases h

theorem TagRule.numeric_of_decode {v : Json} (hv : v.Numeric) {r : TagRule}
    (h : decode v = .ok r) : r.Numeric := by
  have hblank : Numeric record.blank := fun x hx => by rcases hx with hx | hx <;> cases hx
  refine Decode.Record.decode_induction_of_numeric (fun m hm => ?_) hblank hv h
  simp only [record, List.mem_cons, List.not_mem_nil, or_false] at hm
  rcases hm with rfl | rfl | rfl | rfl | rfl | rfl | rfl | rfl | rfl | rfl | rfl | rfl | rfl |
    rfl | rfl
  -- All members but two have nothing to do with the bounds.
  all_goals
    try exact Decode.Member.keeps_of_put (fun _ _ => rfl) fun _ _ _ _ _ h => h
  · refine Decode.Member.keeps_of_put (fun _ _ => rfl) fun v bound r hv hbound hr x hx => ?_
    rcases hx with hmin | hmax
    · exact isNaN_of_decode hv hbound x hmin
    · exact hr x (.inr hmax)
  · refine Decode.Member.keeps_of_put (fun _ _ => rfl) fun v bound r hv hbound hr x hx => ?_
    rcases hx with hmin | hmax
    · exact hr x (.inl hmin)
    · exact isNaN_of_decode hv hbound x hmax

/-- The bounds of all rules of a snapshot that is read from a text are numbers. -/
theorem Snapshot.numeric_of_read {text : String} {x : Snapshot}
    (h : (Json.read text).map decode = some (.ok x)) : ∀ r ∈ x.tagRules, r.Numeric := by
  obtain ⟨v, hread, h⟩ := Option.map_eq_some_iff.1 h
  refine Decode.Record.decode_induction_of_numeric (r := record)
    (P := fun x => ∀ r ∈ x.tagRules, r.Numeric) (fun m hm => ?_) (List.forall_mem_nil _)
    (Json.numeric_of_read hread) h
  simp only [record, List.mem_cons, List.not_mem_nil, or_false] at hm
  rcases hm with rfl | rfl | rfl | rfl | rfl | rfl | rfl | rfl | rfl
  all_goals
    try exact Decode.Member.keeps_of_put (fun _ _ => rfl) fun _ _ _ _ _ h => h
  -- The rules are those that a list of values is decoded to.
  refine Decode.Member.keeps_of_put (fun _ _ => rfl) fun v rules x hv hrules _ r hr => ?_
  cases hv with
  | arr hitems =>
    obtain ⟨i, hi, hdecode⟩ := Decode.exists_of_mem_mapM hrules hr
    exact TagRule.numeric_of_decode (hitems i hi) hdecode
  | null | bool | int | float | str | obj | void => cases hrules

end HandStudy
