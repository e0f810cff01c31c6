import HandStudy.Glob.Basic
import HandStudy.Pattern.Basic
import Mathlib.Data.List.Pairwise

/-!
# What expressions match

An expression matches a part of a text, from one place to another (`Expr.Matches`). That says what
sequences, choices and repetitions mean without sets of places and without any limit of
repetitions. Evaluation follows it (`Expr.follows_ends`): an expression occurs in a text if a part
of the text matches (`Expr.occursIn_iff`), and a text matches as a whole if it does from its first
place to its last (`Expr.matchesAll_iff`).

Repetitions need two arguments. A search that goes on from new places only misses none
(`Places.mem_reach`); and no more steps have to be taken than there are places, as one of so many
steps stays where it is and can be taken again, or left out (`steps_succ_iff`).
-/

namespace HandStudy

namespace Pattern

/-- So many steps of a relation lead from one place to another. -/
def Steps (R : Nat → Nat → Prop) : Nat → Nat → Nat → Prop
  | 0, i, j => i = j
  | n + 1, i, k => ∃ j, R i j ∧ Steps R n j k

/-- The expression matches the part of the text between two places. A bound of a repetition that
    is below the least number counts as that number. -/
def Expr.Matches {κ α σ : Type} (alphabet : Alphabet κ α σ) (text : Array σ) :
    Expr κ α → Nat → Nat → Prop
  | .empty, i, j => i = j
  | .one set, i, j => (∃ c, text[i]? = some c ∧ alphabet.contains set c) ∧ j = i + 1
  | .check condition, i, j =>
    alphabet.holds condition (if i = 0 then none else text[i - 1]?) text[i]? ∧ i = j
  | .seq first second, i, k =>
    ∃ j, first.Matches alphabet text i j ∧ second.Matches alphabet text j k
  | .either left right, i, j => left.Matches alphabet text i j ∨ right.Matches alphabet text i j
  | .times body least most, i, j =>
    ∃ n, least ≤ n ∧ (∀ m, most = some m → n ≤ m ∨ n = least) ∧
      Steps (body.Matches alphabet text) n i j

/-! ## Steps -/

section Steps

variable {R : Nat → Nat → Prop} {size m n i j k : Nat}

theorem steps_add_iff : Steps R (m + n) i k ↔ ∃ j, Steps R m i j ∧ Steps R n j k := by
  induction m generalizing i with
  | zero => simp [Steps]
  | succ m ih =>
    rw [Nat.succ_add]
    simp only [Steps, ih]
    constructor
    · rintro ⟨l, hl, j, hlj, hj⟩
      exact ⟨j, ⟨l, hl, hlj⟩, hj⟩
    · rintro ⟨j, ⟨l, hl, hlj⟩, hj⟩
      exact ⟨l, hl, j, hlj, hj⟩

/-- Steps that lead on, and not beyond the last place of a text. -/
structure Advances (size : Nat) (R : Nat → Nat → Prop) : Prop where
  le : ∀ {i j}, R i j → i ≤ j
  within : ∀ {i j}, i ≤ size → R i j → j ≤ size

theorem Advances.steps (h : Advances size R) (n : Nat) : Advances size (Steps R n) := by
  induction n with
  | zero => exact ⟨fun hij => Nat.le_of_eq hij, fun hi hij => hij ▸ hi⟩
  | succ n ih =>
    constructor
    · rintro i k ⟨j, hij, hjk⟩
      exact Nat.le_trans (h.le hij) (ih.le hjk)
    · rintro i k hi ⟨j, hij, hjk⟩
      exact ih.within (h.within hi hij) hjk

/-- Of more steps than there are places ahead, one stays where it is. -/
theorem steps_succ_iff (h : Advances size R) (hi : i ≤ size) (hn : size < i + n) :
    Steps R (n + 1) i j ↔ Steps R n i j := by
  induction n generalizing i with
  | zero => omega
  | succ n ih =>
    have hahead : ∀ {k}, R i k → k ≠ i → (Steps R (n + 1) k j ↔ Steps R n k j) := by
      intro k hk hne
      have hle := h.le hk
      exact ih (h.within hi hk) (by omega)
    constructor
    · rintro ⟨k, hk, hkj⟩
      by_cases hki : k = i
      · exact hki ▸ hkj
      · exact ⟨k, hk, (hahead hk hki).1 hkj⟩
    · rintro ⟨k, hk, hkj⟩
      by_cases hki : k = i
      · subst hki
        exact ⟨k, hk, k, hk, hkj⟩
      · exact ⟨k, hk, (hahead hk hki).2 hkj⟩

/-- Any two numbers of steps above the number of places lead to the same places. -/
theorem steps_congr (h : Advances size R) (hi : i ≤ size) (hm : size < m) (hn : size < n) :
    Steps R m i j ↔ Steps R n i j := by
  have hleast : ∀ d, Steps R (size + 1 + d) i j ↔ Steps R (size + 1) i j := by
    intro d
    induction d with
    | zero => rfl
    | succ d ih => rw [← Nat.add_assoc, steps_succ_iff h hi (by omega), ih]
  obtain ⟨c, rfl⟩ := Nat.exists_eq_add_of_le (Nat.succ_le_of_lt hm)
  obtain ⟨d, rfl⟩ := Nat.exists_eq_add_of_le (Nat.succ_le_of_lt hn)
  rw [hleast c, hleast d]

/-- Repetitions need to be counted only up to a limit above the number of places: first those
    that have to be, and then more. -/
theorem exists_steps_iff (h : Advances size R) (hi : i ≤ size) {limit least more : Nat}
    (hlimit : size < limit) {most : Option Nat} (hnone : most = none → more = limit)
    (hsome : ∀ m, most = some m → more = min (m - least) limit) :
    (∃ k, Steps R (min least limit) i k ∧ ∃ n ≤ more, Steps R n k j) ↔
      ∃ n, least ≤ n ∧ (∀ m, most = some m → n ≤ m ∨ n = least) ∧ Steps R n i j := by
  -- A number of steps that is out of bounds is replaced by another one above the limit.
  have hlong : ∀ {m n}, limit ≤ m → limit ≤ n → Steps R m i j → Steps R n i j :=
    fun hm hn => (steps_congr h hi (by omega) (by omega)).1
  constructor
  · rintro ⟨k, hik, n, hn, hkj⟩
    have hij := steps_add_iff.2 ⟨k, hik, hkj⟩
    by_cases hl : least ≤ limit
    · refine ⟨_, by omega, fun m hm => ?_, hij⟩
      have hmore := hsome m hm
      omega
    · exact ⟨least, Nat.le_refl _, fun m hm => .inr rfl, hlong (by omega) (by omega) hij⟩
  · rintro ⟨n, hleast, hmost, hij⟩
    have hsplit : ∀ {n}, n ≤ more → Steps R (min least limit + n) i j →
        ∃ k, Steps R (min least limit) i k ∧ ∃ n ≤ more, Steps R n k j := by
      intro n hn hij
      obtain ⟨k, hik, hkj⟩ := steps_add_iff.1 hij
      exact ⟨k, hik, n, hn, hkj⟩
    by_cases hl : limit ≤ least
    · exact hsplit (Nat.zero_le _) (hlong (by omega) (by omega) hij)
    by_cases hfar : n ≤ least + more
    · refine hsplit (n := n - least) (by omega) ?_
      rwa [Nat.min_eq_left (by omega), Nat.add_sub_cancel' hleast]
    have hmore : more = limit := by
      cases hm : most with
      | none => exact hnone hm
      | some m =>
        have hle := hmost m hm
        have hmore := hsome m hm
        omega
    exact hsplit (Nat.le_refl _) (hlong (by omega) (by omega) hij)

end Steps

/-! ## Sets of places -/

namespace Places

variable {size n p : Nat} {xs ys places : List Nat}

theorem mem_union : p ∈ union xs ys ↔ p ∈ xs ∨ p ∈ ys := by
  fun_induction union xs ys with
  | case1 ys => simp
  | case2 xs => simp
  | case3 x xs y ys h ih => simp only [List.mem_cons, ih, or_assoc]
  | case4 x xs y ys h h' ih =>
    simp only [List.mem_cons, ih]
    exact or_left_comm
  | case5 x xs y ys h h' ih =>
    obtain rfl : x = y := by omega
    rw [List.mem_cons, List.mem_cons, List.mem_cons, ih, or_or_or_comm, or_self]

theorem pairwise_union (hx : xs.Pairwise (· < ·)) (hy : ys.Pairwise (· < ·)) :
    (union xs ys).Pairwise (· < ·) := by
  fun_induction union xs ys with
  | case1 ys => exact hy
  | case2 xs => exact hx
  | case3 x xs y ys h ih =>
    obtain ⟨hx, hxs⟩ := List.pairwise_cons.1 hx
    refine List.pairwise_cons.2 ⟨fun p hp => ?_, ih hxs hy⟩
    rcases mem_union.1 hp with hp | hp
    · exact hx p hp
    · rcases List.mem_cons.1 hp with rfl | hp
      · exact h
      · exact Nat.lt_trans h ((List.pairwise_cons.1 hy).1 p hp)
  | case4 x xs y ys h h' ih =>
    obtain ⟨hy, hys⟩ := List.pairwise_cons.1 hy
    refine List.pairwise_cons.2 ⟨fun p hp => ?_, ih hx hys⟩
    rcases mem_union.1 hp with hp | hp
    · rcases List.mem_cons.1 hp with rfl | hp
      · exact h'
      · exact Nat.lt_trans h' ((List.pairwise_cons.1 hx).1 p hp)
    · exact hy p hp
  | case5 x xs y ys h h' ih =>
    obtain ⟨hx, hxs⟩ := List.pairwise_cons.1 hx
    obtain ⟨hy, hys⟩ := List.pairwise_cons.1 hy
    refine List.pairwise_cons.2 ⟨fun p hp => ?_, ih hxs hys⟩
    rcases mem_union.1 hp with hp | hp
    · exact hx p hp
    · obtain rfl : x = y := by omega
      exact hy p hp

theorem mem_diff (hx : xs.Pairwise (· < ·)) (hy : ys.Pairwise (· < ·)) :
    p ∈ diff xs ys ↔ p ∈ xs ∧ p ∉ ys := by
  fun_induction diff xs ys with
  | case1 ys => simp
  | case2 xs => simp
  | case3 x xs y ys h ih =>
    have hxy : x ∉ y :: ys := by
      intro hmem
      rcases List.mem_cons.1 hmem with rfl | hmem
      · exact Nat.lt_irrefl _ h
      · exact Nat.lt_asymm h ((List.pairwise_cons.1 hy).1 x hmem)
    rw [List.mem_cons, List.mem_cons, ih (List.pairwise_cons.1 hx).2 hy, or_and_right]
    refine or_congr_left ⟨fun hp => ⟨hp, hp ▸ hxy⟩, And.left⟩
  | case4 x xs y ys h h' ih =>
    rw [ih hx (List.pairwise_cons.1 hy).2]
    refine and_congr_right fun hp => not_congr ⟨List.mem_cons_of_mem _, fun hmem => ?_⟩
    -- What is first in the second set comes before all of the first.
    rcases List.mem_cons.1 hmem with rfl | hmem
    · rcases List.mem_cons.1 hp with rfl | hp
      · exact absurd h' (Nat.lt_irrefl _)
      · exact absurd h' (Nat.lt_asymm ((List.pairwise_cons.1 hx).1 p hp))
    · exact hmem
  | case5 x xs y ys h h' ih =>
    obtain rfl : x = y := by omega
    obtain ⟨hx, hxs⟩ := List.pairwise_cons.1 hx
    rw [ih hxs (List.pairwise_cons.1 hy).2, List.mem_cons, List.mem_cons, not_or]
    constructor
    · exact fun ⟨hp, hnot⟩ => ⟨.inr hp, fun h => Nat.lt_irrefl _ (h ▸ hx p hp), hnot⟩
    · exact fun ⟨hp, hne, hnot⟩ => ⟨hp.resolve_left hne, hnot⟩

theorem diff_sublist : (diff xs ys).Sublist xs := by
  fun_induction diff xs ys with
  | case1 ys => exact List.Sublist.refl _
  | case2 xs => exact List.Sublist.refl _
  | case3 x xs y ys h ih => exact ih.cons_cons x
  | case4 x xs y ys h h' ih => exact ih
  | case5 x xs y ys h h' ih => exact ih.cons x

/-- Places of a text of this size, in increasing order. -/
structure Ordered (size : Nat) (places : List Nat) : Prop where
  increasing : places.Pairwise (· < ·)
  le : ∀ p ∈ places, p ≤ size

theorem Ordered.union (hx : Ordered size xs) (hy : Ordered size ys) :
    Ordered size (union xs ys) where
  increasing := pairwise_union hx.increasing hy.increasing
  le p hp := (mem_union.1 hp).elim (hx.le p) (hy.le p)

theorem Ordered.sublist (hy : Ordered size ys) (h : xs.Sublist ys) : Ordered size xs where
  increasing := hy.increasing.sublist h
  le p hp := hy.le p (h.subset hp)

/-- The function takes a set of places to those where a relation leads from one of them. -/
structure Follows (size : Nat) (R : Nat → Nat → Prop) (step : List Nat → List Nat) : Prop where
  ordered : ∀ {places}, Ordered size places → Ordered size (step places)
  mem_iff : ∀ {places j}, Ordered size places → (j ∈ step places ↔ ∃ i ∈ places, R i j)

section Follows

variable {R S : Nat → Nat → Prop} {step step' : List Nat → List Nat}

theorem Follows.congr (h : Follows size R step) (hRS : ∀ i ≤ size, ∀ j, R i j ↔ S i j) :
    Follows size S step where
  ordered := h.ordered
  mem_iff hp := (h.mem_iff hp).trans
    (exists_congr fun i => and_congr_right fun hi => hRS i (hp.le i hi) _)

theorem Follows.comp (h : Follows size R step) (h' : Follows size S step') :
    Follows size (fun i k => ∃ j, R i j ∧ S j k) fun places => step' (step places) where
  ordered hp := h'.ordered (h.ordered hp)
  mem_iff hp := by
    rw [h'.mem_iff (h.ordered hp)]
    simp only [h.mem_iff hp]
    constructor
    · rintro ⟨j, ⟨i, hi, hij⟩, hjk⟩
      exact ⟨i, hi, j, hij, hjk⟩
    · rintro ⟨i, hi, j, hij, hjk⟩
      exact ⟨j, ⟨i, hi, hij⟩, hjk⟩

theorem iterate_fixed (h : step places = places) (n : Nat) : iterate step n places = places := by
  cases n with
  | zero => rfl
  | succ n => simp [iterate, h]

theorem iterate_succ : iterate step (n + 1) places = iterate step n (step places) := by
  rw [iterate]
  split
  · rename_i h
    rw [h, iterate_fixed h]
  · rfl

theorem follows_iterate (h : Follows size R step) (n : Nat) :
    Follows size (Steps R n) (iterate step n) := by
  induction n with
  | zero => exact ⟨fun hp => hp, fun hp => by simp [iterate, Steps]⟩
  | succ n ih =>
    have heq : iterate step (n + 1) = fun places => iterate step n (step places) :=
      funext fun places => iterate_succ
    exact heq ▸ h.comp ih

theorem ordered_reach (h : Follows size R step) {reached last : List Nat}
    (hreached : Ordered size reached) (hlast : Ordered size last) :
    Ordered size (reach step n reached last) := by
  induction n generalizing reached last with
  | zero => exact hreached
  | succ n ih =>
    rw [reach]
    have hnew : Ordered size (diff (step last) reached) := (h.ordered hlast).sublist diff_sublist
    split
    · exact hreached
    · rename_i hdiff
      rw [hdiff] at hnew
      exact ih (hreached.union hnew) hnew

/-- Steps do not lead out of places that no step leads out of. -/
theorem mem_of_steps {places : List Nat} (h : ∀ i ∈ places, ∀ j, R i j → j ∈ places) {i : Nat}
    (hi : i ∈ places) (hip : Steps R n i p) : p ∈ places := by
  induction n generalizing i with
  | zero => exact hip ▸ hi
  | succ n ih =>
    obtain ⟨j, hij, hjp⟩ := hip
    exact ih (h i hi j hij) hjp

/-- As long as a step from a place that is not among the last ones leads to a place that is
    reached already, going on from the last ones misses nothing. -/
theorem mem_reach (h : Follows size R step) {reached last : List Nat}
    (hreached : Ordered size reached) (hlast : Ordered size last) (hsub : last ⊆ reached)
    (hdone : ∀ i ∈ reached, i ∉ last → ∀ j, R i j → j ∈ reached) :
    p ∈ reach step n reached last ↔ ∃ m ≤ n, ∃ i ∈ reached, Steps R m i p := by
  induction n generalizing reached last with
  | zero => simp [reach, Steps]
  | succ n ih =>
    have hdiff : ∀ {j}, j ∈ diff (step last) reached ↔ (∃ i ∈ last, R i j) ∧ j ∉ reached :=
      fun {j} => by
        rw [mem_diff (h.ordered hlast).increasing hreached.increasing, h.mem_iff hlast]
    -- A step from where the search has come leads to what it knows then.
    have hnext : ∀ i ∈ reached, ∀ j, R i j → j ∈ reached ∨ j ∈ diff (step last) reached := by
      intro i hi j hij
      by_cases hj : j ∈ reached
      · exact .inl hj
      · refine .inr (hdiff.2 ⟨⟨i, ?_, hij⟩, hj⟩)
        exact not_not.1 fun hi' => hj (hdone i hi hi' j hij)
    rw [reach]
    split
    · rename_i hnone
      have hclosed : ∀ i ∈ reached, ∀ j, R i j → j ∈ reached := fun i hi j hij =>
        (hnext i hi j hij).resolve_right (by simp [hnone])
      constructor
      · exact fun hp => ⟨0, Nat.zero_le _, p, hp, rfl⟩
      · rintro ⟨m, -, i, hi, hip⟩
        exact mem_of_steps hclosed hi hip
    · rename_i q fresh hsome
      have hnew : Ordered size (q :: fresh) :=
        hsome ▸ (h.ordered hlast).sublist diff_sublist
      rw [hsome] at hdiff hnext
      rw [ih (hreached.union hnew) hnew (fun j hj => mem_union.2 (.inr hj))]
      · constructor
        · rintro ⟨m, hm, i, hi, hip⟩
          rcases mem_union.1 hi with hi | hi
          · exact ⟨m, by omega, i, hi, hip⟩
          · obtain ⟨⟨l, hl, hli⟩, -⟩ := hdiff.1 hi
            exact ⟨m + 1, by omega, l, hsub hl, i, hli, hip⟩
        · rintro ⟨m, hm, i, hi, hip⟩
          cases m with
          | zero => exact ⟨0, Nat.zero_le _, i, mem_union.2 (.inl hi), hip⟩
          | succ m =>
            obtain ⟨j, hij, hjp⟩ := hip
            exact ⟨m, by omega, j, mem_union.2 (hnext i hi j hij), hjp⟩
      · intro i hi hi' j hij
        exact mem_union.2 (hnext i ((mem_union.1 hi).resolve_right hi') j hij)

theorem follows_reach (h : Follows size R step) (n : Nat) :
    Follows size (fun i j => ∃ m ≤ n, Steps R m i j) fun places => reach step n places places where
  ordered hp := ordered_reach h hp hp
  mem_iff hp := by
    rw [mem_reach h hp hp (List.Subset.refl _) fun i hi hi' => absurd hi hi']
    constructor
    · rintro ⟨m, hm, i, hi, hij⟩
      exact ⟨i, hi, m, hm, hij⟩
    · rintro ⟨i, hi, m, hm, hij⟩
      exact ⟨m, hm, i, hi, hij⟩

end Follows

end Places

/-! ## Expressions -/

namespace Expr

open Places (Follows Ordered)

variable {κ α σ : Type} {alphabet : Alphabet κ α σ} {text : Array σ}

/-- A match begins and ends in the text, in this order. -/
theorem advances_matches (e : Expr κ α) : Advances text.size (e.Matches alphabet text) := by
  induction e with
  | empty => exact ⟨fun h => Nat.le_of_eq h, fun hi h => h ▸ hi⟩
  | one set =>
    refine ⟨fun h => h.2 ▸ Nat.le_succ _, fun _ h => ?_⟩
    obtain ⟨⟨c, hc, -⟩, rfl⟩ := h
    exact (Array.getElem?_eq_some_iff.1 hc).1
  | check condition => exact ⟨fun h => Nat.le_of_eq h.2, fun hi h => h.2 ▸ hi⟩
  | seq first second ih ih' =>
    constructor
    · rintro i k ⟨j, hij, hjk⟩
      exact Nat.le_trans (ih.le hij) (ih'.le hjk)
    · rintro i k hi ⟨j, hij, hjk⟩
      exact ih'.within (ih.within hi hij) hjk
  | either left right ih ih' =>
    exact ⟨fun h => h.elim ih.le ih'.le, fun hi h => h.elim (ih.within hi) (ih'.within hi)⟩
  | times body least most ih =>
    constructor
    · rintro i j ⟨n, -, -, h⟩
      exact (ih.steps n).le h
    · rintro i j hi ⟨n, -, -, h⟩
      exact (ih.steps n).within hi h

/-- One symbol leads on from the places where it stands. -/
theorem ends_one (set : κ) (places : List Nat) :
    (Expr.one set : Expr κ α).ends alphabet text places =
      (places.filter fun i => text[i]?.any (alphabet.contains set)).map (· + 1) := by
  rw [ends]
  induction places with
  | nil => rfl
  | cons i places ih =>
    cases hi : text[i]? with
    | none => simp [hi, ih]
    | some c => by_cases hc : alphabet.contains set c <;> simp [hi, hc, ih]

theorem follows_one (set : κ) :
    Follows text.size ((Expr.one set : Expr κ α).Matches alphabet text)
      ((Expr.one set : Expr κ α).ends alphabet text) := by
  have hmem : ∀ {places : List Nat} {j}, j ∈ (Expr.one set : Expr κ α).ends alphabet text places ↔
      ∃ i ∈ places, (Expr.one set : Expr κ α).Matches alphabet text i j := by
    intro places j
    simp only [ends_one, List.mem_map, List.mem_filter, Option.any_eq_true, and_assoc, Matches]
    exact exists_congr fun i => and_congr_right fun _ => and_congr_right fun _ => eq_comm
  refine ⟨fun hp => ⟨?_, fun j hj => ?_⟩, fun _ => hmem⟩
  · rw [ends_one, List.pairwise_map]
    exact (hp.increasing.filter _).imp Nat.succ_lt_succ
  · obtain ⟨i, hi, h⟩ := hmem.1 hj
    exact (advances_matches _).within (hp.le i hi) h

/-- The places where a match ends are those to which the expression matches from where one may
    begin. -/
theorem follows_ends (e : Expr κ α) :
    Follows text.size (e.Matches alphabet text) (e.ends alphabet text) := by
  induction e with
  | empty =>
    refine ⟨fun hp => hp, fun {places j} _ => ?_⟩
    exact ⟨fun hj => ⟨j, hj, rfl⟩, fun ⟨i, hi, hij⟩ => hij ▸ hi⟩
  | one set => exact follows_one set
  | check condition =>
    refine ⟨fun hp => hp.sublist List.filter_sublist, fun {places j} hp => ?_⟩
    rw [ends, List.mem_filter]
    exact ⟨fun h => ⟨j, h.1, h.2, rfl⟩, fun ⟨i, hi, h, hij⟩ => hij ▸ ⟨hi, h⟩⟩
  | seq first second ih ih' => exact ih.comp ih'
  | either left right ih ih' =>
    refine ⟨fun hp => (ih.ordered hp).union (ih'.ordered hp), fun {places j} hp => ?_⟩
    rw [ends, Places.mem_union, ih.mem_iff hp, ih'.mem_iff hp]
    simp only [Matches, and_or_left, exists_or]
  | times body least most ih =>
    refine ((Places.follows_iterate ih _).comp (Places.follows_reach ih _)).congr fun i hi j => ?_
    refine exists_steps_iff (advances_matches body) hi (Nat.lt_succ_self _) ?_ fun m hmost => ?_
    · rintro rfl
      rfl
    · rw [hmost]

/-- An expression occurs in a text if a part of the text matches. -/
theorem occursIn_iff {e : Expr κ α} :
    e.occursIn alphabet text = true ↔
      ∃ i j, i ≤ j ∧ j ≤ text.size ∧ e.Matches alphabet text i j := by
  have hplaces : Ordered text.size (List.range (text.size + 1)) :=
    ⟨List.pairwise_lt_range, fun i hi => Nat.le_of_lt_succ (List.mem_range.1 hi)⟩
  have hadvances : Advances text.size (e.Matches alphabet text) := advances_matches e
  rw [occursIn, Bool.not_eq_true', List.isEmpty_eq_false_iff_exists_mem]
  simp only [(follows_ends e).mem_iff hplaces, List.mem_range]
  constructor
  · rintro ⟨j, i, hi, h⟩
    exact ⟨i, j, hadvances.le h, hadvances.within (Nat.le_of_lt_succ hi) h, h⟩
  · rintro ⟨i, j, hij, hj, h⟩
    exact ⟨j, i, by omega, h⟩

/-- A text matches as a whole if it does from its first place to its last. -/
theorem matchesAll_iff {e : Expr κ α} :
    e.matchesAll alphabet text = true ↔ e.Matches alphabet text 0 text.size := by
  have hplaces : Ordered text.size [0] := ⟨List.pairwise_singleton _ _, by simp⟩
  rw [matchesAll, List.contains_iff_mem, (follows_ends e).mem_iff hplaces]
  simp

end Expr

end Pattern

/-- A part of the text matches the pattern. -/
def Pattern.Occurs (p : Pattern) (text : String) : Prop :=
  ∃ i j, i ≤ j ∧ j ≤ text.toList.toArray.size ∧
    p.Matches Pattern.characters text.toList.toArray i j

/-- Searching finds a pattern that occurs. -/
theorem Pattern.foundIn_iff_occurs {p : Pattern} {text : String} :
    p.foundIn text = true ↔ p.Occurs text :=
  Pattern.Expr.occursIn_iff

/-- The bytes of the text match the glob from the first to the last. -/
def Glob.Describes (g : Glob) (text : String) : Prop :=
  g.expr.Matches Glob.bytes text.toUTF8.data 0 text.toUTF8.data.size

/-- A glob accepts the texts that it describes. -/
theorem Glob.accepts_iff_describes {g : Glob} {text : String} :
    g.accepts text = true ↔ g.Describes text :=
  Pattern.Expr.matchesAll_iff

end HandStudy
