import HandStudy.Proofs.Ordered
import HandStudy.Texture
import Mathlib.Algebra.Group.Action.Defs
import Mathlib.Data.Finset.Max
import Mathlib.Data.Set.Card

/-!
# What the texture of a board says

Each tag says something about the cards of a board by itself (`Texture.Tag.Describes`), without
the sets and counts that the tags are found with. A board has exactly the tags that describe it
(`Texture.mem_analyze_iff`). They depend on its ranks and on the number of its suits
(`Texture.analyze_congr`), so neither on the order of the cards nor on which suits they are.
-/

namespace HandStudy

/-! ## Orders and numbers -/

theorem isStrictTotalOrder_of_injective {α : Type} {f : α → Nat} (hf : f.Injective) :
    IsStrictTotalOrder α fun a b => f a < f b :=
  RelEmbedding.isStrictTotalOrder (s := (· < ·)) ⟨⟨f, hf⟩, Iff.rfl⟩

theorem Suit.index_injective : Function.Injective Suit.index := by
  intro a b
  cases a <;> cases b <;> simp [index]

theorem Rank.value_injective : Function.Injective Rank.value := by
  intro a b
  cases a <;> cases b <;> simp [value]

instance suit_isStrictTotalOrder : IsStrictTotalOrder Suit (· < ·) :=
  isStrictTotalOrder_of_injective Suit.index_injective

instance rank_isStrictTotalOrder : IsStrictTotalOrder Rank (· < ·) :=
  isStrictTotalOrder_of_injective Rank.value_injective

theorem Rank.mem_all (r : Rank) : r ∈ Rank.all := by
  cases r <;> decide

theorem Rank.nodup_all : Rank.all.Nodup := by
  decide

/-- A list without repetitions is as long as it has members. -/
theorem ncard_mem {α : Type} [DecidableEq α] {l : List α} (h : l.Nodup) :
    {a | a ∈ l}.ncard = l.length := by
  rw [← List.coe_toFinset, Set.ncard_coe_finset, List.toFinset_card_of_nodup h]

theorem two_le_length_iff {α : Type} [DecidableEq α] {l : List α} (h : l.Nodup) :
    2 ≤ l.length ↔ ∃ a ∈ l, ∃ b ∈ l, a ≠ b := by
  rw [← ncard_mem h]
  exact Set.one_lt_ncard (List.finite_toSet l)

namespace Texture

variable {board : List Card}

/-! ## What tags say -/

/-- How many suits there are on a board. -/
noncomputable def suitCount (board : List Card) : Nat :=
  {s | ∃ c ∈ board, c.suit = s}.ncard

/-- How many ranks come exactly twice on a board. -/
noncomputable def pairCount (board : List Card) : Nat :=
  {r | rankCount board r = 2}.ncard

/-- Some rank comes three times, and none more often. -/
def HasTrips (board : List Card) : Prop :=
  (∃ r, rankCount board r = 3) ∧ ∀ r, rankCount board r < 4

/-- The rank is the highest on a board. -/
def IsTop (board : List Card) (r : Rank) : Prop :=
  (∃ c ∈ board, c.rank = r) ∧ ∀ c ∈ board, c.rank.value ≤ r.value

/-- The rank is a ten or a higher one. -/
def IsHigh (r : Rank) : Prop :=
  Rank.ten.value ≤ r.value

/-- There are three cards or more, all high and of ranks of their own. -/
def IsHeavy (board : List Card) : Prop :=
  3 ≤ board.length ∧ (∀ c ∈ board, IsHigh c.rank) ∧ (board.map Card.rank).Nodup

/-- What a tag says about a board. -/
def Tag.Describes (board : List Card) : Tag → Prop
  | monotone => suitCount board = 1
  | twoTone => suitCount board = 2
  | rainbow => suitCount board = 3
  | quads => ∃ r, 4 ≤ rankCount board r
  | trips => HasTrips board
  | fullHouse => HasTrips board ∧ ∃ r, rankCount board r = 2
  | twoPair => (∀ r, rankCount board r ≤ 2) ∧ pairCount board = 2
  | paired => (∀ r, rankCount board r ≤ 2) ∧ pairCount board = 1
  | high r => IsTop board r
  | broadwayHeavy => IsHeavy board
  | broadwayPresent =>
    3 ≤ board.length ∧ ¬ IsHeavy board ∧
      ∃ c ∈ board, ∃ d ∈ board, IsHigh c.rank ∧ IsHigh d.rank ∧ c.rank ≠ d.rank

/-- The tags for ranks that come more than once, but for the one that comes with trips. -/
def Tag.repetitions : List Tag := [quads, trips, twoPair, paired]

/-! ## Counting -/

theorem length_suits (board : List Card) :
    (Ordered.ofList (board.map Card.suit)).length = suitCount board := by
  rw [suitCount, ← ncard_mem (Ordered.nodup_ofList _)]
  simp only [Ordered.mem_ofList, List.mem_map]

theorem mem_ranksCounted {n : Nat} {r : Rank} :
    r ∈ ranksCounted board n ↔ rankCount board r = n := by
  simp [ranksCounted, Rank.mem_all]

theorem length_pairs (board : List Card) : (ranksCounted board 2).length = pairCount board := by
  have hnodup : (ranksCounted board 2).Nodup := Rank.nodup_all.filter _
  rw [pairCount, ← ncard_mem hnodup]
  simp only [mem_ranksCounted]

theorem ranksCounted_ne_nil_iff {n : Nat} :
    ranksCounted board n ≠ [] ↔ ∃ r, rankCount board r = n := by
  rw [ne_eq, List.eq_nil_iff_forall_not_mem]
  simp only [mem_ranksCounted, not_forall, not_not]

theorem any_four_iff :
    Rank.all.any (4 ≤ rankCount board ·) = true ↔ ∃ r, 4 ≤ rankCount board r := by
  simp [Rank.mem_all]

theorem pairCount_ne_zero_iff : pairCount board ≠ 0 ↔ ∃ r, rankCount board r = 2 := by
  rw [← length_pairs, ← ranksCounted_ne_nil_iff, ne_eq, List.length_eq_zero_iff]

theorem lt_four_iff : (∀ r, rankCount board r < 4) ↔ ¬ ∃ r, 4 ≤ rankCount board r := by
  simp only [not_exists, not_le]

/-- No rank comes more than twice if none comes three times or more often. -/
theorem le_two_iff : (∀ r, rankCount board r ≤ 2) ↔
    (∀ r, rankCount board r < 4) ∧ ¬ ∃ r, rankCount board r = 3 := by
  constructor
  · intro h
    exact ⟨fun r => Nat.lt_of_le_of_lt (h r) (by decide), fun ⟨r, hr⟩ => absurd (h r) (by omega)⟩
  · rintro ⟨hfour, hthree⟩ r
    have hr := hfour r
    have hne : rankCount board r ≠ 3 := fun h => hthree ⟨r, h⟩
    omega

/-! ## The parts of a texture -/

variable {t : Tag}

theorem mem_suitTags_iff : t ∈ suitTags board ↔
    t = .monotone ∧ suitCount board = 1 ∨ t = .twoTone ∧ suitCount board = 2 ∨
      t = .rainbow ∧ suitCount board = 3 := by
  rw [suitTags, length_suits]
  split <;> simp_all

theorem mem_repetitionTags_iff : t ∈ repetitionTags board ↔
    t = .quads ∧ (∃ r, 4 ≤ rankCount board r) ∨
    t = .trips ∧ HasTrips board ∨
    t = .fullHouse ∧ HasTrips board ∧ (∃ r, rankCount board r = 2) ∨
    t = .twoPair ∧ (∀ r, rankCount board r ≤ 2) ∧ pairCount board = 2 ∨
    t = .paired ∧ (∀ r, rankCount board r ≤ 2) ∧ pairCount board = 1 := by
  rw [repetitionTags, length_pairs, HasTrips, le_two_iff, lt_four_iff, ← pairCount_ne_zero_iff]
  by_cases hquads : ∃ r, 4 ≤ rankCount board r
  · rw [if_pos (any_four_iff.2 hquads)]
    simp [hquads]
  rw [if_neg (mt any_four_iff.1 hquads)]
  by_cases htrips : ∃ r, rankCount board r = 3
  · rw [if_pos (ranksCounted_ne_nil_iff.2 htrips)]
    by_cases hnone : pairCount board = 0 <;> simp [hquads, htrips, hnone]
  · rw [if_neg (mt ranksCounted_ne_nil_iff.1 htrips)]
    by_cases htwo : pairCount board = 2
    · simp [hquads, htrips, htwo]
    · by_cases hone : pairCount board = 1 <;> simp [hquads, htrips, htwo, hone]

theorem mem_highTags_iff : t ∈ highTags board ↔ ∃ r, t = .high r ∧ IsTop board r := by
  have hlt (a b : Rank) : ¬ a < b ↔ b.value ≤ a.value := Nat.not_lt
  simp only [highTags, Option.mem_toList, Option.map_eq_some_iff,
    Ordered.getLast?_ofList_eq_some_iff, List.mem_map, hlt, forall_exists_index, and_imp,
    forall_apply_eq_imp_iff₂]
  exact exists_congr fun r => and_comm.trans (and_congr_left fun _ => eq_comm)

theorem isBroadway_iff {r : Rank} : r.isBroadway = true ↔ IsHigh r := by
  rw [Rank.isBroadway, decide_eq_true_eq]
  rfl

/-- As many high ranks as cards: they are all high, and of ranks of their own. -/
theorem length_broadway_eq_iff :
    ((Ordered.ofList (board.map Card.rank)).filter Rank.isBroadway).length = board.length ↔
      (∀ c ∈ board, IsHigh c.rank) ∧ (board.map Card.rank).Nodup := by
  rw [← board.length_map Card.rank, Ordered.length_filter_ofList_eq_iff]
  simp only [List.forall_mem_map, isBroadway_iff]

theorem two_le_length_broadway_iff :
    2 ≤ ((Ordered.ofList (board.map Card.rank)).filter Rank.isBroadway).length ↔
      ∃ c ∈ board, ∃ d ∈ board, IsHigh c.rank ∧ IsHigh d.rank ∧ c.rank ≠ d.rank := by
  rw [two_le_length_iff ((Ordered.nodup_ofList _).filter _)]
  simp only [List.mem_filter, Ordered.mem_ofList, List.mem_map, isBroadway_iff]
  constructor
  · rintro ⟨_, ⟨⟨c, hc, rfl⟩, hhigh⟩, _, ⟨⟨d, hd, rfl⟩, hhigh'⟩, hne⟩
    exact ⟨c, hc, d, hd, hhigh, hhigh', hne⟩
  · rintro ⟨c, hc, d, hd, hhigh, hhigh', hne⟩
    exact ⟨_, ⟨⟨c, hc, rfl⟩, hhigh⟩, _, ⟨⟨d, hd, rfl⟩, hhigh'⟩, hne⟩

theorem mem_broadwayTags_iff : t ∈ broadwayTags board ↔
    t = .broadwayHeavy ∧ IsHeavy board ∨
    t = .broadwayPresent ∧ 3 ≤ board.length ∧ ¬ IsHeavy board ∧
      ∃ c ∈ board, ∃ d ∈ board, IsHigh c.rank ∧ IsHigh d.rank ∧ c.rank ≠ d.rank := by
  rw [broadwayTags, IsHeavy, ← length_broadway_eq_iff, ← two_le_length_broadway_iff]
  by_cases hlength : board.length < 3
  · rw [if_pos hlength]
    simp [Nat.not_le.2 hlength]
  rw [if_neg hlength]
  have hlength' : 3 ≤ board.length := Nat.not_lt.1 hlength
  by_cases hall : ((Ordered.ofList (board.map Card.rank)).filter Rank.isBroadway).length =
      board.length
  · rw [if_pos hall]
    simp [hall, hlength']
  · rw [if_neg hall]
    split <;> rename_i htwo <;> simp [hall, hlength', htwo]

/-! ## The whole texture -/

theorem mem_analyze : t ∈ analyze board ↔ t ∈ suitTags board ∨ t ∈ repetitionTags board ∨
    t ∈ highTags board ∨ t ∈ broadwayTags board := by
  rw [analyze]
  split
  · rename_i hempty
    rw [hempty]
    -- Without cards no part has any tags.
    simp [suitTags, repetitionTags, highTags, broadwayTags, rankCount, ranksCounted,
      Ordered.ofList]
  · simp only [List.mem_append, or_assoc]

/-- A board has the tags that describe it, and no others. -/
theorem mem_analyze_iff : t ∈ analyze board ↔ t.Describes board := by
  rw [mem_analyze, mem_suitTags_iff, mem_repetitionTags_iff, mem_highTags_iff,
    mem_broadwayTags_iff]
  cases t <;> simp [Tag.Describes]

theorem suitTags_sublist (board : List Card) :
    (suitTags board).Sublist [.monotone, .twoTone, .rainbow] := by
  rw [suitTags]
  split <;> decide

theorem repetitionTags_sublist (board : List Card) :
    (repetitionTags board).Sublist [.quads, .trips, .fullHouse, .twoPair, .paired] := by
  rw [repetitionTags]
  split_ifs <;> decide

theorem broadwayTags_sublist (board : List Card) :
    (broadwayTags board).Sublist [.broadwayHeavy, .broadwayPresent] := by
  rw [broadwayTags]
  split_ifs <;> decide

/-- No tag stands twice in a texture. -/
theorem nodup_analyze (board : List Card) : (analyze board).Nodup := by
  rw [analyze]
  split
  · exact List.nodup_nil
  · obtain ⟨r, hhigh⟩ : ∃ r, (highTags board).Sublist [.high r] := by
      rw [highTags]
      cases (Ordered.ofList (board.map Card.rank)).getLast? with
      | none => exact ⟨.two, List.nil_sublist _⟩
      | some r => exact ⟨r, List.Sublist.refl _⟩
    have hrepetitions := (suitTags_sublist board).append (repetitionTags_sublist board)
    exact ((hrepetitions.append hhigh).append (broadwayTags_sublist board)).nodup (by simp)

theorem IsTop.eq {r q : Rank} (hr : IsTop board r) (hq : IsTop board q) : q = r := by
  obtain ⟨⟨c, hc, rfl⟩, hcmax⟩ := hr
  obtain ⟨⟨d, hd, rfl⟩, hdmax⟩ := hq
  exact Rank.value_injective (Nat.le_antisymm (hcmax d hd) (hdmax c hc))

theorem exists_isTop (h : board ≠ []) : ∃ r, IsTop board r := by
  obtain ⟨c, hc, hmax⟩ := board.toFinset.exists_max_image (fun c => c.rank.value)
    (List.toFinset_nonempty_iff board |>.2 h)
  simp only [List.mem_toFinset] at hc hmax
  exact ⟨c.rank, ⟨c, hc, rfl⟩, hmax⟩

/-! ## Textures of other boards -/

theorem rankCount_eq_count (board : List Card) (r : Rank) :
    rankCount board r = (board.map Card.rank).count r := by
  rw [List.count, List.countP_map]
  rfl

/-- The texture depends on the ranks of a board, in any order, and on the number of its suits. -/
theorem analyze_congr {board' : List Card}
    (hranks : (board.map Card.rank).Perm (board'.map Card.rank))
    (hsuits : suitCount board = suitCount board') : analyze board = analyze board' := by
  have hlength : board.length = board'.length := by simpa using hranks.length_eq
  have hcount : rankCount board = rankCount board' := by
    funext r
    rw [rankCount_eq_count, rankCount_eq_count, hranks.count_eq]
  have hset : Ordered.ofList (board.map Card.rank) = Ordered.ofList (board'.map Card.rank) :=
    Ordered.ofList_congr fun r => hranks.mem_iff
  have hempty : board = [] ↔ board' = [] := by
    rw [← List.length_eq_zero_iff, hlength, List.length_eq_zero_iff]
  have hsuitTags : suitTags board = suitTags board' := by
    rw [suitTags, suitTags, length_suits, length_suits, hsuits]
  have hcounted (n : Nat) : ranksCounted board n = ranksCounted board' n := by
    rw [ranksCounted, ranksCounted, hcount]
  have hrepetitionTags : repetitionTags board = repetitionTags board' := by
    rw [repetitionTags, repetitionTags, hcount, hcounted, hcounted]
  have hhighTags : highTags board = highTags board' := by
    rw [highTags, highTags, hset]
  have hbroadwayTags : broadwayTags board = broadwayTags board' := by
    rw [broadwayTags, broadwayTags, hset, hlength]
  simp only [analyze, hempty, hsuitTags, hrepetitionTags, hhighTags, hbroadwayTags]

theorem analyze_perm {board' : List Card} (h : board'.Perm board) :
    analyze board' = analyze board := by
  refine analyze_congr (h.map Card.rank) ?_
  simp only [suitCount, h.mem_iff]

/-- The card with its suit called otherwise. -/
def renameSuit (f : Suit → Suit) (c : Card) : Card :=
  ⟨c.rank, f c.suit⟩

theorem analyze_map_renameSuit {f : Suit → Suit} (hf : f.Injective) :
    analyze (board.map (renameSuit f)) = analyze board := by
  refine analyze_congr ?_ ?_
  · rw [List.map_map]
    exact List.Perm.refl _
  · rw [suitCount, suitCount, ← Set.ncard_image_of_injective {s | ∃ c ∈ board, c.suit = s} hf]
    congr 1
    ext s
    simp [renameSuit]

/-! ## Repetitions -/

/-- Each rank that comes twice takes two cards. -/
theorem two_mul_pairCount_le (board : List Card) : 2 * pairCount board ≤ board.length := by
  let ranks := board.map Card.rank
  let pairs := ranks.dedup.filter (ranks.count · = 2)
  have hmem (r : Rank) : r ∈ pairs ↔ rankCount board r = 2 := by
    rw [List.mem_filter, List.mem_dedup, decide_eq_true_eq, rankCount_eq_count]
    exact and_iff_right_of_imp fun h => List.count_pos_iff.1 (h ▸ Nat.two_pos)
  have hnodup : pairs.Nodup := ranks.nodup_dedup.filter _
  have hpairs : pairCount board = pairs.length := by
    rw [pairCount, ← ncard_mem hnodup]
    simp only [hmem]
  have htwo : pairs.map ranks.count = pairs.map fun _ => 2 :=
    List.map_congr_left fun r hr => of_decide_eq_true (List.mem_filter.1 hr).2
  have hsum := List.sum_map_count_dedup_filter_eq_countP (ranks.count · = 2) ranks
  rw [htwo, List.map_const', List.sum_replicate, smul_eq_mul] at hsum
  have hlength : ranks.countP (ranks.count · = 2) ≤ board.length := by
    simpa [ranks] using List.countP_le_length (p := (ranks.count · = 2)) (l := ranks)
  omega

/-- Of the tags for ranks that come more than once no board has two. -/
theorem eq_of_mem_repetitions {u : Tag} (ht : t ∈ Tag.repetitions) (hu : u ∈ Tag.repetitions)
    (hboard : t ∈ analyze board) (hboard' : u ∈ analyze board) : t = u := by
  rw [mem_analyze_iff] at hboard hboard'
  simp only [Tag.repetitions, List.mem_cons, List.not_mem_nil, or_false] at ht hu
  rcases ht with rfl | rfl | rfl | rfl <;> rcases hu with rfl | rfl | rfl | rfl <;>
    simp only [Tag.Describes, HasTrips, le_two_iff, lt_four_iff] at hboard hboard' <;> simp_all

/-- A board whose ranks do not all come once has one of these tags, but for a board of three pairs
    or more, and nothing better. -/
theorem exists_repetition_iff : (∃ t ∈ Tag.repetitions, t ∈ analyze board) ↔
    (∃ r, 2 ≤ rankCount board r) ∧
      ¬ ((∀ r, rankCount board r ≤ 2) ∧ 3 ≤ pairCount board) := by
  simp only [mem_analyze_iff, Tag.repetitions, List.mem_cons, List.not_mem_nil, or_false,
    exists_eq_or_imp, exists_eq_left, Tag.Describes]
  constructor
  · have htwo (hpairs : pairCount board ≠ 0) : ∃ r, 2 ≤ rankCount board r :=
      (pairCount_ne_zero_iff.1 hpairs).imp fun r hr => hr.ge
    rintro (⟨r, hr⟩ | ⟨⟨r, hr⟩, -⟩ | ⟨-, hpairs⟩ | ⟨-, hpairs⟩)
    · exact ⟨⟨r, by omega⟩, fun h => absurd (h.1 r) (by omega)⟩
    · exact ⟨⟨r, by omega⟩, fun h => absurd (h.1 r) (by omega)⟩
    · exact ⟨htwo (by omega), fun h => absurd h.2 (by omega)⟩
    · exact ⟨htwo (by omega), fun h => absurd h.2 (by omega)⟩
  · rintro ⟨⟨r, hr⟩, hfew⟩
    by_cases hquads : ∃ r, 4 ≤ rankCount board r
    · exact .inl hquads
    by_cases htrips : ∃ r, rankCount board r = 3
    · exact .inr (.inl ⟨htrips, lt_four_iff.2 hquads⟩)
    have hle := le_two_iff.2 ⟨lt_four_iff.2 hquads, htrips⟩
    have hpairs := pairCount_ne_zero_iff.2 ⟨r, Nat.le_antisymm (hle r) hr⟩
    have hless : pairCount board < 3 := Nat.not_le.1 fun h => hfew ⟨hle, h⟩
    by_cases htwo : pairCount board = 2
    · exact .inr (.inr (.inl ⟨hle, htwo⟩))
    · exact .inr (.inr (.inr ⟨hle, by omega⟩))

/-- The texture of a board in words about its cards. It has exactly the tags that describe it,
    each once: so none without cards, and else one for the highest rank and no other of the kind.
    It is the same for any order of the cards and any names of the suits. A board on which some
    rank comes more than once has exactly one of the tags for that, but for a board of three pairs
    or more and nothing better, which has six cards at least. -/
theorem analyze_exact (board : List Card) :
    (∀ t, t ∈ analyze board ↔ t.Describes board) ∧ (analyze board).Nodup ∧ analyze [] = [] ∧
    (board ≠ [] → ∃ r, IsTop board r ∧ ∀ q, .high q ∈ analyze board ↔ q = r) ∧
    (∀ board', board'.Perm board → analyze board' = analyze board) ∧
    (∀ f : Suit → Suit, f.Injective → analyze (board.map (renameSuit f)) = analyze board) ∧
    ((∃! t, t ∈ Tag.repetitions ∧ t ∈ analyze board) ↔
      (∃ r, 2 ≤ rankCount board r) ∧
        ¬ ((∀ r, rankCount board r ≤ 2) ∧ 3 ≤ pairCount board)) ∧
    (board.length ≤ 5 →
      ((∃! t, t ∈ Tag.repetitions ∧ t ∈ analyze board) ↔ ∃ r, 2 ≤ rankCount board r)) := by
  have hrepetition : (∃! t, t ∈ Tag.repetitions ∧ t ∈ analyze board) ↔
      (∃ r, 2 ≤ rankCount board r) ∧
        ¬ ((∀ r, rankCount board r ≤ 2) ∧ 3 ≤ pairCount board) := by
    rw [← exists_repetition_iff]
    constructor
    · rintro ⟨t, ht, -⟩
      exact ⟨t, ht⟩
    · rintro ⟨t, ht, hboard⟩
      exact ⟨t, ⟨ht, hboard⟩, fun u hu => eq_of_mem_repetitions hu.1 ht hu.2 hboard⟩
  refine ⟨fun t => mem_analyze_iff, nodup_analyze board, rfl, fun hboard => ?_,
    fun board' h => analyze_perm h, fun f hf => analyze_map_renameSuit hf, hrepetition,
    fun hlength => ?_⟩
  · obtain ⟨r, hr⟩ := exists_isTop hboard
    refine ⟨r, hr, fun q => ?_⟩
    rw [mem_analyze_iff]
    exact ⟨fun hq => hr.eq hq, fun hq => hq ▸ hr⟩
  · rw [hrepetition]
    have hpairs := two_mul_pairCount_le board
    exact and_iff_left fun h => by omega

/-- Three nines and two fours in three suits. -/
def fullBoard : List Card :=
  [⟨.nine, .clubs⟩, ⟨.four, .diamonds⟩, ⟨.nine, .diamonds⟩, ⟨.four, .clubs⟩, ⟨.nine, .hearts⟩]

/-- A pair of aces, one of kings and one of queens. -/
def threePairs : List Card :=
  [⟨.ace, .clubs⟩, ⟨.ace, .spades⟩, ⟨.king, .clubs⟩, ⟨.king, .spades⟩, ⟨.queen, .clubs⟩,
    ⟨.queen, .spades⟩]

/-- Clubs for spades, and spades for clubs. -/
def swapBlack (s : Suit) : Suit :=
  if s = .clubs then .spades else if s = .spades then .clubs else s

theorem swapBlack_injective : swapBlack.Injective := by
  intro a b
  cases a <;> cases b <;> decide

theorem analyze_exact_boards :
    analyze fullBoard = [.rainbow, .trips, .fullHouse, .high .nine] ∧
    (∃! t, t ∈ Tag.repetitions ∧ t ∈ analyze fullBoard) ∧
    (∃ r, IsTop fullBoard r ∧ ∀ q, .high q ∈ analyze fullBoard ↔ q = r) ∧
    analyze fullBoard.reverse = analyze fullBoard ∧
    analyze (fullBoard.map (renameSuit swapBlack)) = analyze fullBoard ∧
    analyze threePairs = [.twoTone, .high .ace, .broadwayPresent] ∧
    ¬ (∃! t, t ∈ Tag.repetitions ∧ t ∈ analyze threePairs) := by
  obtain ⟨-, -, -, htop, hperm, hsuits, -, hsmall⟩ := analyze_exact fullBoard
  obtain ⟨-, -, -, -, -, -, hrepetition, -⟩ := analyze_exact threePairs
  refine ⟨by decide, (hsmall (by decide)).2 ⟨.nine, by decide⟩, htop (by decide),
    hperm _ fullBoard.reverse_perm, hsuits _ swapBlack_injective, by decide, fun h => ?_⟩
  have hpairs : (ranksCounted threePairs 2).length = 3 := by decide
  have hle : ∀ r, rankCount threePairs r ≤ 2 := by
    intro r
    cases r <;> decide
  rw [length_pairs] at hpairs
  exact (hrepetition.1 h).2 ⟨hle, hpairs.ge⟩

end Texture

end HandStudy
