import HandStudy.Proofs.Decode
import HandStudy.Proofs.Text.Blank
import HandStudy.Proofs.Text.Letters
import HandStudy.Texture
import Mathlib

/-!
# How cards are spelled

A text is read as a card if it is the canonical spelling of that card, up to the case of its ASCII
letters and the blanks around it, and as nothing else (`Card.parse_eq_ok_iff`). Any other text has
one of three faults, and which one is told by its characters (`Card.parse_eq_error_iff`). A board is
read card by card up to the first text that is none, so its texture depends on the cards that its
texts stand for, and not on how these are spelled (`Card.analyzeText_congr`).
-/

namespace HandStudy

/-! ## Letter case and blanks -/

namespace Text

/-- Characters that agree in lower case agree in upper case. -/
theorem toLower_eq_iff {c d : Char} : c.toLower = d.toLower ↔ c.toUpper = d.toUpper := by
  constructor
  · intro h
    rw [← c.toUpper_toLower_eq_toUpper, h, d.toUpper_toLower_eq_toUpper]
  · intro h
    rw [← c.toLower_toUpper_eq_toLower, h, d.toLower_toUpper_eq_toLower]

theorem isBlank_of_isAlpha {c : Char} (h : c.isAlpha) : isBlank c = false := by
  have hle (d e : Char) : d ≤ e ↔ d.toNat ≤ e.toNat := Iff.rfl
  rw [← Bool.not_eq_true]
  intro hblank
  simp only [isBlank, Bool.or_eq_true, Bool.and_eq_true, decide_eq_true_iff, ← Char.toNat_inj, hle,
    Char.reduceToNat] at hblank
  simp only [Char.isAlpha, Char.isUpper, Char.isLower, UInt32.le_iff_toNat_le, Bool.or_eq_true,
    Bool.and_eq_true, decide_eq_true_iff, Char.reduceVal, UInt32.reduceToNat, ge_iff_le,
    Char.toNat_val] at h
  omega

/-- A letter is blank in neither case, and no other character changes. -/
theorem isBlank_toLower (c : Char) : isBlank c.toLower = isBlank c := by
  by_cases hc : c.isUpper
  · have halpha : c.isAlpha := by rw [Char.isAlpha, hc, Bool.true_or]
    rw [isBlank_of_isAlpha halpha, isBlank_of_isAlpha (c.isAlpha_toLower_eq_isAlpha.trans halpha)]
  · rw [Char.toLower_eq_of_not_isUpper hc]

theorem trimChars_map_toLower (cs : List Char) :
    trimChars (cs.map Char.toLower) = (trimChars cs).map Char.toLower := by
  have hblank : isBlank ∘ Char.toLower = isBlank := funext isBlank_toLower
  rw [trimChars, trimChars, List.dropWhile_map, hblank, ← List.map_reverse, List.dropWhile_map,
    hblank, List.map_reverse]

/-- Texts that differ in case only still do when they are trimmed. -/
theorem sameLetters_trim {s t : String} (h : sameLetters s t) : sameLetters (trim s) (trim t) := by
  rw [sameLetters_iff] at h ⊢
  rw [trim, trim, String.toList_ofList, String.toList_ofList, ← trimChars_map_toLower, h,
    trimChars_map_toLower]

theorem IsPadded.trim_eq {core s : String} (h : IsPadded core s) : trim s = trim core := by
  obtain ⟨lead, trail, hlead, htrail, rfl⟩ := h
  rw [trim, trim, String.toList_append, String.toList_append, trimChars_padded hlead htrail]

end Text

/-! ## Ranks and suits -/

theorem Rank.ofChar?_eq_some_iff {c : Char} {r : Rank} :
    ofChar? c = some r ↔ c.toLower = r.letter.toLower := by
  have hupper : r.letter.toUpper = r.letter := by cases r <;> rfl
  rw [Text.toLower_eq_iff, hupper, eq_comm (a := c.toUpper)]
  constructor
  · intro h
    simpa using List.find?_some h
  · intro h
    rw [ofChar?, ← h]
    cases r <;> rfl

theorem Suit.ofChar?_eq_some_iff {c : Char} {s : Suit} :
    ofChar? c = some s ↔ c.toLower = s.letter.toLower := by
  have hlower : s.letter.toLower = s.letter := by cases s <;> rfl
  rw [hlower, eq_comm (a := c.toLower)]
  constructor
  · intro h
    simpa using List.find?_some h
  · intro h
    rw [ofChar?, ← h]
    cases s <;> rfl

theorem Rank.ofChar?_eq_none_iff {c : Char} :
    ofChar? c = none ↔ ∀ r : Rank, c.toLower ≠ r.letter.toLower := by
  rw [Option.eq_none_iff_forall_ne_some]
  simp only [ne_eq, ofChar?_eq_some_iff]

theorem Suit.ofChar?_eq_none_iff {c : Char} :
    ofChar? c = none ↔ ∀ s : Suit, c.toLower ≠ s.letter.toLower := by
  rw [Option.eq_none_iff_forall_ne_some]
  simp only [ne_eq, ofChar?_eq_some_iff]

namespace Card

variable {s t : String} {c : Card} {e : CardError}

/-! ## Reading a card -/

/-- What is wrong with the characters of a text that is no card, blanks around it apart. -/
inductive Faulty : List Char → CardFault → Prop
  | length {cs : List Char} : cs.length ≠ 2 → Faulty cs .length
  | rank {r u : Char} : (∀ rank : Rank, r.toLower ≠ rank.letter.toLower) → Faulty [r, u] .rank
  | suit {r u : Char} {rank : Rank} : r.toLower = rank.letter.toLower →
      (∀ suit : Suit, u.toLower ≠ suit.letter.toLower) → Faulty [r, u] .suit

theorem sameLetters_text_iff : Text.sameLetters s c.text ↔
    ∃ r u, s.toList = [r, u] ∧ r.toLower = c.rank.letter.toLower ∧
      u.toLower = c.suit.letter.toLower := by
  rw [Text.sameLetters_iff, text, String.toList_ofList]
  constructor
  · intro h
    obtain ⟨r, us, hs, hr, hus⟩ := List.map_eq_cons_iff.1 h
    obtain ⟨u, us, rfl, hu, hnil⟩ := List.map_eq_cons_iff.1 hus
    obtain rfl := List.map_eq_nil_iff.1 hnil
    exact ⟨r, u, hs, hr, hu⟩
  · rintro ⟨r, u, hs, hr, hu⟩
    rw [hs, List.map_cons, List.map_singleton, hr, hu]
    rfl

/-- A text is a card if it is spelled like the card once it is trimmed, letter case apart. -/
theorem parse_eq_ok_iff : parse s = .ok c ↔ Text.sameLetters (Text.trim s) c.text := by
  rw [sameLetters_text_iff, Text.trim, String.toList_ofList, parse]
  simp only [← Rank.ofChar?_eq_some_iff, ← Suit.ofChar?_eq_some_iff]
  constructor
  · intro h
    split at h
    · rename_i r u hs
      split at h
      · cases h
      · rename_i rank hr
        split at h
        · cases h
        · rename_i suit hu
          obtain rfl := Except.ok.inj h
          exact ⟨r, u, hs, hr, hu⟩
    · cases h
  · rintro ⟨r, u, hs, hr, hu⟩
    simp only [hs, hr, hu]

/-- A text that is no card is told as it is given, with its fault. The rank is looked at before the
    suit, and both only if there are two characters. -/
theorem parse_eq_error_iff :
    parse s = .error e ↔ e.card = s ∧ Faulty (Text.trim s).toList e.fault := by
  rw [Text.trim, String.toList_ofList]
  constructor
  · intro h
    rw [parse] at h
    split at h
    · rename_i r u hs
      rw [hs]
      split at h
      · rename_i hr
        obtain rfl := Except.error.inj h
        exact ⟨rfl, .rank (Rank.ofChar?_eq_none_iff.1 hr)⟩
      · rename_i rank hr
        split at h
        · rename_i hu
          obtain rfl := Except.error.inj h
          exact ⟨rfl, .suit (Rank.ofChar?_eq_some_iff.1 hr) (Suit.ofChar?_eq_none_iff.1 hu)⟩
        · cases h
    · rename_i hs
      obtain rfl := Except.error.inj h
      refine ⟨rfl, .length fun hlength => ?_⟩
      obtain ⟨r, u, hru⟩ := List.length_eq_two.1 hlength
      exact hs r u hru
  · obtain ⟨card, fault⟩ := e
    rintro ⟨rfl, hfault⟩
    rw [parse]
    generalize Text.trimChars card.toList = cs at hfault ⊢
    cases hfault with
    | length hlength =>
      split
      · exact absurd rfl hlength
      · rfl
    | rank hr => simp only [Rank.ofChar?_eq_none_iff.2 hr]
    | suit hr hu =>
      simp only [Rank.ofChar?_eq_some_iff.2 hr, Suit.ofChar?_eq_none_iff.2 hu]

theorem Faulty.message_iff {cs : List Char} {fault : CardFault} (h : Faulty cs fault) :
    fault.message = "expected exactly two characters" ↔ cs.length ≠ 2 := by
  cases h with
  | length hlength => exact iff_of_true rfl hlength
  | rank _ => exact iff_of_false (by decide) (not_not_intro rfl)
  | suit _ _ => exact iff_of_false (by decide) (not_not_intro rfl)

/-- The canonical spelling is one of the spellings, and has no blanks around it. -/
theorem parse_text (c : Card) : parse c.text = .ok c := by
  obtain ⟨rank, suit⟩ := c
  cases rank <;> cases suit <;> rfl

/-- No character beyond ASCII is an ASCII letter in another case. -/
theorem lt_of_toLower_lt {c : Char} (h : c.toLower.toNat < 128) : c.toNat < 128 := by
  by_cases hc : c.isUpper
  · have hupper : c.toNat ≤ 'Z'.toNat := by
      rw [Char.isUpper, decide_eq_true_iff] at hc
      exact UInt32.le_iff_toNat_le.1 hc.2
    exact hupper.trans_lt (by decide)
  · rwa [Char.toLower_eq_of_not_isUpper hc] at h

/-- What is read as a card are two ASCII characters. -/
theorem isAscii_of_parse (h : parse s = .ok c) :
    (Text.trim s).length = 2 ∧ Text.IsAscii (Text.trim s).toList := by
  obtain ⟨r, u, hs, hr, hu⟩ := sameLetters_text_iff.1 (parse_eq_ok_iff.1 h)
  have hrank : r.toNat < 128 := lt_of_toLower_lt <| by
    rw [hr]
    cases c.rank <;> decide
  have hsuit : u.toNat < 128 := lt_of_toLower_lt <| by
    rw [hu]
    cases c.suit <;> decide
  rw [← String.length_toList, hs]
  exact ⟨rfl, List.forall_mem_cons.2 ⟨hrank, List.forall_mem_singleton.2 hsuit⟩⟩

/-! ## Reading a board -/

/-- The texts differ in nothing but the case of ASCII letters and the blanks around them. -/
def SpelledAlike (s t : String) : Prop :=
  ∃ core core', Text.IsPadded core s ∧ Text.IsPadded core' t ∧ Text.sameLetters core core'

theorem SpelledAlike.symm (h : SpelledAlike s t) : SpelledAlike t s := by
  obtain ⟨core, core', hs, ht, hcores⟩ := h
  exact ⟨core', core, ht, hs, Text.sameLetters_comm core core' ▸ hcores⟩

theorem SpelledAlike.parse (h : SpelledAlike s t) (hs : parse s = .ok c) : parse t = .ok c := by
  obtain ⟨core, core', hcore, hcore', hcores⟩ := h
  rw [parse_eq_ok_iff, hcore.trim_eq] at hs
  rw [parse_eq_ok_iff, hcore'.trim_eq, ← Text.sameLetters_congr (Text.sameLetters_trim hcores)]
  exact hs

variable {texts texts' : List String}

theorem parseAll_of_spelledAlike (h : List.Forall₂ SpelledAlike texts texts') {board : List Card}
    (hboard : parseAll texts = .ok board) : parseAll texts' = .ok board := by
  rw [parseAll, Decode.mapM_eq_ok_iff] at hboard ⊢
  induction h generalizing board with
  | nil => exact hboard
  | cons hst _ ih =>
    cases hboard with
    | cons hc hboard => exact .cons (hst.parse hc) (ih hboard)

/-- However the cards of a board are spelled, it has the same texture, or else none. -/
theorem analyzeText_congr (h : List.Forall₂ SpelledAlike texts texts') :
    (Texture.analyzeText texts).toOption = (Texture.analyzeText texts').toOption := by
  have hback : List.Forall₂ SpelledAlike texts' texts := h.flip.imp fun _ _ => SpelledAlike.symm
  rw [Texture.analyzeText, Texture.analyzeText]
  cases hboard : parseAll texts with
  | ok board => rw [parseAll_of_spelledAlike h hboard]
  | error e =>
    cases hboard' : parseAll texts' with
    | ok board =>
      rw [parseAll_of_spelledAlike hback hboard'] at hboard
      cases hboard
    | error e' => rfl

/-- A text is a card exactly if it is the canonical spelling of that card, the case of ASCII letters
    and the blanks around it apart. So it has two characters then, both of ASCII, and from the
    canonical spelling the card is read again. Any other text is told as it is given: it has not two
    characters, or else the first is no rank, or else the second is no suit. The texts of a board
    are read in order up to the first that is no card, and the texture of the board is that of the
    cards, so it is the same however they are spelled. -/
theorem parse_spellings :
    (∀ s c, parse s = .ok c ↔ Text.sameLetters (Text.trim s) c.text) ∧
    (∀ s c, parse s = .ok c →
      (Text.trim s).length = 2 ∧ Text.IsAscii (Text.trim s).toList ∧ parse c.text = .ok c) ∧
    (∀ s e, parse s = .error e ↔ e.card = s ∧ Faulty (Text.trim s).toList e.fault) ∧
    (∀ s e, parse s = .error e →
      (e.fault.message = "expected exactly two characters" ↔ (Text.trim s).length ≠ 2)) ∧
    (∀ texts board, parseAll texts = .ok board ↔
      List.Forall₂ (fun s c => parse s = .ok c) texts board) ∧
    (∀ texts e, parseAll texts = .error e ↔ ∃ before s after, texts = before ++ s :: after ∧
      (∀ t ∈ before, ∃ c, parse t = .ok c) ∧ parse s = .error e) ∧
    (∀ texts board, parseAll texts = .ok board →
      Texture.analyzeText texts = .ok (Texture.analyze board)) ∧
    (∀ texts texts', List.Forall₂ SpelledAlike texts texts' →
      (Texture.analyzeText texts).toOption = (Texture.analyzeText texts').toOption) := by
  refine ⟨fun s c => parse_eq_ok_iff, fun s c h => ?_, fun s e => parse_eq_error_iff,
    fun s e h => ?_, fun texts board => Decode.mapM_eq_ok_iff,
    fun texts e => Decode.mapM_eq_error_iff, fun texts board h => ?_,
    fun texts texts' => analyzeText_congr⟩
  · obtain ⟨hlength, hascii⟩ := isAscii_of_parse h
    exact ⟨hlength, hascii, parse_text c⟩
  · rw [(parse_eq_error_iff.1 h).2.message_iff, String.length_toList]
  · rw [Texture.analyzeText, h]
    rfl

/-- A card in the other case between an em space and a tab is read. A ten of two digits is too long,
    and a Kelvin sign is no king. The first text of a board that is no card is told with its blanks,
    and a board in small letters has the texture that it has in the canonical spelling. -/
theorem parse_spellings_padded :
    (parse "\u2003aH\t" = .ok ⟨.ace, .hearts⟩ ∧ (Text.trim "\u2003aH\t").length = 2) ∧
    (parse "10h" = .error ⟨"10h", .length⟩ ∧ (Text.trim "10h").length ≠ 2) ∧
    parse "\u212ah" = .error ⟨"\u212ah", .rank⟩ ∧
    parseAll ["Ah", " 1z", ""] = .error ⟨" 1z", .rank⟩ ∧
    (Texture.analyzeText [" ah", "Kh", "2H"]).toOption =
      some (Texture.analyze [⟨.ace, .hearts⟩, ⟨.king, .hearts⟩, ⟨.two, .hearts⟩]) := by
  obtain ⟨hok, htwo, herror, hmessage, hall, hfirst, hboard, halike⟩ := parse_spellings
  have hace : parse "\u2003aH\t" = .ok ⟨.ace, .hearts⟩ := (hok _ _).2 (by decide +kernel)
  have hten : parse "10h" = .error ⟨"10h", .length⟩ := (herror _ _).2 ⟨rfl, .length (by decide)⟩
  have hkelvin : parse "\u212ah" = .error ⟨"\u212ah", .rank⟩ := by
    refine (herror _ _).2 ⟨rfl, .rank fun r => ?_⟩
    cases r <;> decide
  have hone : parse " 1z" = .error ⟨" 1z", .rank⟩ := by
    refine (herror _ _).2 ⟨rfl, .rank fun r => ?_⟩
    cases r <;> decide
  have hgiven : parseAll ["Ah", "Kh", "2h"] =
      .ok [⟨.ace, .hearts⟩, ⟨.king, .hearts⟩, ⟨.two, .hearts⟩] :=
    (hall _ _).2 (.cons rfl (.cons rfl (.cons rfl .nil)))
  have hspelled : List.Forall₂ SpelledAlike [" ah", "Kh", "2H"] ["Ah", "Kh", "2h"] :=
    .cons ⟨"ah", "Ah", ⟨" ", "", by decide, by decide, rfl⟩, ⟨"", "", nofun, nofun, rfl⟩, rfl⟩
      (.cons ⟨"Kh", "Kh", ⟨"", "", nofun, nofun, rfl⟩, ⟨"", "", nofun, nofun, rfl⟩, rfl⟩
        (.cons ⟨"2H", "2h", ⟨"", "", nofun, nofun, rfl⟩, ⟨"", "", nofun, nofun, rfl⟩, rfl⟩ .nil))
  refine ⟨⟨hace, (htwo _ _ hace).1⟩, ⟨hten, (hmessage _ _ hten).1 rfl⟩, hkelvin, ?_, ?_⟩
  · exact (hfirst _ _).2 ⟨["Ah"], " 1z", [""], rfl, List.forall_mem_singleton.2 ⟨_, rfl⟩, hone⟩
  · rw [halike _ _ hspelled, hboard _ _ hgiven]
    rfl

end Card

end HandStudy
