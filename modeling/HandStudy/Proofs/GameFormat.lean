import HandStudy.Hand
import HandStudy.Proofs.Text.Letters

/-!
# Formats guessed from text

The format that is guessed for an older hand is the one that words in its free text and the number of
its players suggest (`GameFormat.Suggests`, `GameFormat.suggests_guess`), and no other is suggested
(`GameFormat.Suggests.eq`). Several words may occur together: then `cash` outweighs the words for
tournaments, and of the words for sizes of tables the first in a fixed order counts, before the number
of players.
-/

namespace HandStudy.GameFormat

/-! ## What text and players suggest -/

/-- One of these words occurs in the text. -/
def Mentions (words : List String) (text : List Char) : Prop :=
  ∃ w ∈ words, w.toList <:+: text

instance decidableMentions (words : List String) (text : List Char) :
    Decidable (Mentions words text) :=
  List.decidableBEx (fun w : String => w.toList <:+: text) words

/-- The text calls the game a tournament. -/
def CallsTournament (text : List Char) : Prop :=
  Mentions ["tournament", "mtt", "sitgo", "sng", "spingo"] text

instance decidableCallsTournament (text : List Char) : Decidable (CallsTournament text) :=
  decidableMentions _ text

/-- The size of a table that a text suggests, or else the number of players. -/
def suggestedSize (text : List Char) (players : Option UInt32) : TableSize :=
  if Mentions ["6max", "6-max"] text then .six
  else if Mentions ["2max", "2-max"] text then .two
  else if Mentions ["9max", "9-max"] text then .nine
  else if Mentions ["3max", "3-max"] text then .three
  else if Mentions ["heads", "hu"] text then .two
  else if players = some 2 then .two
  else if players = some 3 then .three
  else if players = some 9 then .nine
  else .six

/-- The format that a text in lower case and a number of players suggest. -/
structure Suggests (text : List Char) (players : Option UInt32) (f : GameFormat) : Prop where
  gameClass : f.gameClass = .tournament ↔ CallsTournament text ∧ ¬ Mentions ["cash"] text
  variant : f.variant = .zoom ↔ Mentions ["zoom"] text
  tableSize : f.tableSize = suggestedSize text players

/-! ## What is guessed -/

/-- The size with a number of seats is the one that has so many. -/
theorem ofSeats?_eq_some_iff {n : UInt32} {size : TableSize} :
    TableSize.ofSeats? n = some size ↔ size.seats = n := by
  constructor
  · intro h
    simpa using List.find?_some h
  · rintro rfl
    cases size <;> rfl

/-- A number of players for which there is no table is as good as none. -/
theorem seats_getD_six (players : Option UInt32) :
    (players.bind TableSize.ofSeats?).getD .six =
      if players = some 2 then .two
      else if players = some 3 then .three
      else if players = some 9 then .nine
      else .six := by
  cases hsize : players.bind TableSize.ofSeats? with
  | none =>
    have hnone (size : TableSize) : players ≠ some size.seats := by
      rintro rfl
      rw [Option.bind_some, ofSeats?_eq_some_iff.2 rfl] at hsize
      cases hsize
    have htwo : players ≠ some 2 := hnone .two
    have hthree : players ≠ some 3 := hnone .three
    have hnine : players ≠ some 9 := hnone .nine
    rw [if_neg htwo, if_neg hthree, if_neg hnine]
    rfl
  | some size =>
    obtain ⟨n, rfl, hn⟩ := Option.bind_eq_some_iff.1 hsize
    obtain rfl := ofSeats?_eq_some_iff.1 hn
    cases size <;> rfl

section Guess

variable {gameType : Option String} {players : Option UInt32} {text : List Char}

/-- One of some ASCII words is found if and only if it occurs in the lower case of the text. -/
theorem mentionsAny_eq {s : String} (h : Text.IsLower s.toList text) (words : List String)
    (hwords : ∀ w ∈ words, Text.IsAscii w.toList) :
    mentionsAny words (Text.lower s) = decide (Mentions words text) := by
  rw [Bool.eq_iff_iff, decide_eq_true_eq]
  simp only [mentionsAny, Mentions, List.any_eq_true, Text.mentions_iff]
  refine exists_congr fun w => and_congr_right fun hw => ?_
  exact Text.infix_lower_iff h (hwords w hw)

theorem guess_gameClass (h : Text.IsLower (gameType.getD "").toList text) :
    (guess gameType players).gameClass = .tournament ↔
      CallsTournament text ∧ ¬ Mentions ["cash"] text := by
  have hclass : (guess gameType players).gameClass =
      if mentionsAny ["cash"] (Text.lower (gameType.getD "")) then .cash
      else if mentionsAny tournamentWords (Text.lower (gameType.getD "")) then .tournament
      else .cash := rfl
  have htournament : mentionsAny tournamentWords (Text.lower (gameType.getD "")) =
      decide (CallsTournament text) := mentionsAny_eq h tournamentWords (by decide)
  rw [hclass, mentionsAny_eq h ["cash"] (by decide), htournament]
  by_cases hcash : Mentions ["cash"] text <;> by_cases hcalls : CallsTournament text <;>
    simp [hcash, hcalls]

theorem guess_variant (h : Text.IsLower (gameType.getD "").toList text) :
    (guess gameType players).variant = .zoom ↔ Mentions ["zoom"] text := by
  have hvariant : (guess gameType players).variant =
      if mentionsAny ["zoom"] (Text.lower (gameType.getD "")) then .zoom else .regular := rfl
  rw [hvariant, mentionsAny_eq h ["zoom"] (by decide)]
  by_cases hzoom : Mentions ["zoom"] text <;> simp [hzoom]

theorem guess_tableSize (h : Text.IsLower (gameType.getD "").toList text) :
    (guess gameType players).tableSize = suggestedSize text players := by
  unfold suggestedSize
  simp only [guess, sizeWords, List.find?_cons, List.find?_nil, seats_getD_six]
  rw [mentionsAny_eq h ["6max", "6-max"] (by decide), mentionsAny_eq h ["2max", "2-max"] (by decide),
    mentionsAny_eq h ["9max", "9-max"] (by decide), mentionsAny_eq h ["3max", "3-max"] (by decide),
    mentionsAny_eq h ["heads", "hu"] (by decide)]
  by_cases hsix : Mentions ["6max", "6-max"] text
  · simp [hsix]
  by_cases htwo : Mentions ["2max", "2-max"] text
  · simp [hsix, htwo]
  by_cases hnine : Mentions ["9max", "9-max"] text
  · simp [hsix, htwo, hnine]
  by_cases hthree : Mentions ["3max", "3-max"] text
  · simp [hsix, htwo, hnine, hthree]
  by_cases hheads : Mentions ["heads", "hu"] text <;> simp [hsix, htwo, hnine, hthree, hheads]

theorem suggests_guess (h : Text.IsLower (gameType.getD "").toList text) :
    Suggests text players (guess gameType players) where
  gameClass := guess_gameClass h
  variant := guess_variant h
  tableSize := guess_tableSize h

end Guess

/-- Only one format is suggested. -/
theorem Suggests.eq {text : List Char} {players : Option UInt32} {f g : GameFormat}
    (hf : Suggests text players f) (hg : Suggests text players g) : f = g := by
  have hsize := hf.tableSize.trans hg.tableSize.symm
  have hclass := hf.gameClass.trans hg.gameClass.symm
  have hvariant := hf.variant.trans hg.variant.symm
  rcases f with ⟨_ | _, _ | _, size⟩ <;> rcases g with ⟨_ | _, _ | _, size'⟩ <;> simp_all

/-- The format that is guessed from a free text and a number of players, either of which may be
    missing, is the one that they suggest, whatever they are. In lower case as Unicode has it, the text
    makes the game a tournament if it has a word for that and `cash` is not in it; it makes the game
    zoom if it has that word; and the first of its words for sizes of tables gives the size, or else
    the number of players, if there is a table for it. A hand without a format of its own has this
    one. -/
theorem guess_suggested (gameType : Option String) (players : Option UInt32) (text : List Char)
    (h : Text.IsLower (gameType.getD "").toList text) :
    (∀ f, guess gameType players = f ↔ Suggests text players f) ∧
    ∀ hand : Hand, hand.format = none → hand.gameType = gameType → hand.players = players →
      ∀ f, hand.resolvedFormat = .guessed f ↔ Suggests text players f := by
  have hguess (f : GameFormat) : guess gameType players = f ↔ Suggests text players f := by
    constructor
    · rintro rfl
      exact suggests_guess h
    · exact fun hf => (suggests_guess h).eq hf
  refine ⟨hguess, ?_⟩
  rintro hand hformat rfl rfl f
  rw [Hand.resolvedFormat, hformat, ResolvedFormat.guessed.injEq, hguess f]

/-- A text with words for both classes and for two sizes, neither of which is the number of players;
    and one in which a dotted capital I takes the place of an i. -/
theorem guess_suggested_mixed :
    (Text.IsLower "HU Zoom 2-Max CASH MTT, 9max".toList "hu zoom 2-max cash mtt, 9max".toList ∧
      Suggests "hu zoom 2-max cash mtt, 9max".toList (some 3) ⟨.cash, .zoom, .two⟩ ∧
      guess (some "HU Zoom 2-Max CASH MTT, 9max") (some 3) = ⟨.cash, .zoom, .two⟩) ∧
    ({ gameType := some "S\u0130tGo", players := some 3 } : Hand).resolvedFormat =
      .guessed ⟨.cash, .regular, .three⟩ := by
  have hlower : Text.IsLower "HU Zoom 2-Max CASH MTT, 9max".toList
      "hu zoom 2-max cash mtt, 9max".toList := Text.isLower_lower _
  have hsuggests : Suggests "hu zoom 2-max cash mtt, 9max".toList (some 3) ⟨.cash, .zoom, .two⟩ :=
    ⟨by decide, by decide, by decide⟩
  have hdotted : Text.IsLower "S\u0130tGo".toList "si\u0307tgo".toList := Text.isLower_lower _
  refine ⟨⟨hlower, hsuggests, ?_⟩, ?_⟩
  · exact ((guess_suggested (some "HU Zoom 2-Max CASH MTT, 9max") (some 3) _ hlower).1 _).2 hsuggests
  · refine ((guess_suggested (some "S\u0130tGo") (some 3) _ hdotted).2 _ rfl rfl rfl _).2 ?_
    exact ⟨by decide, by decide, by decide⟩

/-- A word for tournaments does not make every game with it a tournament. -/
theorem cash_outweighs_tournament :
    ¬ ∀ (gameType : Option String) (players : Option UInt32) (text : List Char),
      Text.IsLower (gameType.getD "").toList text →
        ((guess gameType players).gameClass = .tournament ↔ CallsTournament text) := by
  intro h
  have hboth := h (some "mtt_cashout") none _ (Text.isLower_lower _)
  exact absurd (hboth.2 (by decide)) (by decide)

end HandStudy.GameFormat
