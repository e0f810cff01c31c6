import HandStudy.Dialect
import HandStudy.Text.Blank
import Mathlib.Logic.Function.Iterate

/-!
# Globs that are too large

Braces may be nested in a glob, and a matcher for it has a group for each pair. So a word is a glob
in any number of braces (`Glob.ofString?_braced`), but there is a matcher for it only as long as
these are not too many (`Glob.readGlob_braced`).
-/

namespace HandStudy.Glob

/-- The word in so many pairs of braces. -/
def braced (n : Nat) : String :=
  String.ofList (List.replicate n '\x7b' ++ (['c', 'a', 's', 'h'] ++ List.replicate n '\x7d'))

/-- A choice with one branch. -/
def only (tokens : List Token) : List Token :=
  [.alternatives [tokens]]

variable {n : Nat}

/-- No blanks are around it. -/
theorem trim?_braced (n : Nat) : Text.trim? (braced n) = some (braced n) := by
  have hends : ∃ c d mid, Text.isBlank c = false ∧ Text.isBlank d = false ∧
      List.replicate n '\x7b' ++ (['c', 'a', 's', 'h'] ++ List.replicate n '\x7d') =
        c :: (mid ++ [d]) := by
    cases n with
    | zero => exact ⟨'c', 'h', ['a', 's'], by decide, by decide, rfl⟩
    | succ n =>
      refine ⟨'\x7b', '\x7d', List.replicate n '\x7b' ++
        (['c', 'a', 's', 'h'] ++ List.replicate n '\x7d'), by decide, by decide, ?_⟩
      rw [List.replicate_succ, List.replicate_succ' (a := '\x7d')]
      simp only [List.cons_append, List.append_assoc]
  obtain ⟨c, d, mid, hc, hd, hends⟩ := hends
  have htrim : Text.trimChars (c :: (mid ++ [d])) = c :: (mid ++ [d]) := by
    rw [Text.trimChars, List.dropWhile_cons_of_neg (by simp [hc]), ← List.cons_append,
      List.reverse_append, List.reverse_singleton, List.singleton_append,
      List.dropWhile_cons_of_neg (by simp [hd]), List.reverse_cons, List.reverse_reverse]
  rw [Text.trim?, braced, String.toList_ofList, hends, htrim]

/-! ## Reading braces -/

/-- Braces that are opened one after the other wait for their ends. -/
theorem exists_run_open (n fuel : Nat) (outer : List Frame) (rest : List Char)
    (before : Option Char) :
    ∃ before', State.run (fuel + n) ⟨before, [], outer, List.replicate n '\x7b' ++ rest⟩ =
      State.run fuel ⟨before', [], List.replicate n ⟨[], []⟩ ++ outer, rest⟩ := by
  induction n generalizing before outer with
  | zero => exact ⟨before, rfl⟩
  | succ n ih =>
    obtain ⟨before', h⟩ := ih (⟨[], []⟩ :: outer) (some '\x7b')
    refine ⟨before', ?_⟩
    rw [List.replicate_succ' (a := (⟨[], []⟩ : Frame)), List.append_assoc, List.singleton_append,
      ← h]
    rfl

/-- A brace that is closed makes a choice of what is read so far. -/
theorem run_close (before : Option Char) (tokens : List Token) :
    State.run n ⟨before, tokens, List.replicate n ⟨[], []⟩, List.replicate n '\x7d'⟩ =
      some ⟨only^[n] tokens.reverse⟩ := by
  induction n generalizing before tokens with
  | zero => rfl
  | succ n ih => exact ih (some '\x7d') (only tokens.reverse)

/-- The word in any number of braces is a glob. -/
theorem ofString?_braced (n : Nat) :
    ofString? (braced n) = some ⟨only^[n] (['c', 'a', 's', 'h'].map .literal)⟩ := by
  have hlength : (braced n).length = (n + 4) + n := by
    rw [braced, String.length_ofList]
    simp only [List.length_append, List.length_replicate, List.length_cons, List.length_nil]
    omega
  have hlist : (braced n).toList =
      List.replicate n '\x7b' ++ (['c', 'a', 's', 'h'] ++ List.replicate n '\x7d') :=
    String.toList_ofList
  obtain ⟨before, hopen⟩ := exists_run_open n (n + 4) []
    (['c', 'a', 's', 'h'] ++ List.replicate n '\x7d') none
  rw [ofString?, hlength, hlist, hopen, List.append_nil]
  exact run_close (some 'h') (['h', 's', 'a', 'c'].map .literal)

/-! ## Nesting -/

/-- A choice is one part, nested once more. -/
theorem shape_only {tokens : List Token} (h : (shape tokens).parts ≠ 0) :
    shape (only tokens) = ⟨1, (shape tokens).total + 1⟩ := by
  simp [only, shape, Token.shape, branchShapes, h, Shape.append]

theorem shape_iterate_only {tokens : List Token} (h : (shape tokens).parts ≠ 0) (n : Nat) :
    shape (only^[n + 1] tokens) = ⟨1, (shape tokens).total + n + 1⟩ := by
  induction n with
  | zero => exact shape_only h
  | succ n ih =>
    rw [Function.iterate_succ_apply', shape_only (by rw [ih]; exact Nat.one_ne_zero), ih]
    simp [Shape.total]
    omega

/-- There is a matcher for the word in braces if these are not too many. -/
theorem readGlob_braced (n : Nat) :
    Dialect.readGlob (braced n) =
      if n + 2 ≤ maxDepth then .glob ⟨only^[n] (['c', 'a', 's', 'h'].map .literal)⟩
      else .tooLarge := by
  have hdepth : depth ⟨only^[n] (['c', 'a', 's', 'h'].map .literal)⟩ ≤ maxDepth ↔
      n + 2 ≤ maxDepth := by
    cases n with
    | zero => decide +kernel
    | succ n =>
      rw [depth, shape_iterate_only (by decide +kernel)]
      have hword : (shape (['c', 'a', 's', 'h'].map .literal)).total = 1 := by decide +kernel
      rw [hword]
      dsimp only
      omega
  have hread : Dialect.readGlob (braced n) =
      if depth ⟨only^[n] (['c', 'a', 's', 'h'].map .literal)⟩ ≤ maxDepth then
        .glob ⟨only^[n] (['c', 'a', 's', 'h'].map .literal)⟩ else .tooLarge := by
    simp only [Dialect.readGlob, ofString?_braced]
  rw [hread]
  exact if_congr hdepth rfl rfl

end HandStudy.Glob
