import HandStudy.Hand.FlopText
import HandStudy.Proofs.Text.Blank
import Mathlib.Data.List.TakeDrop

/-!
# The first marked group

A group of a history is marked at an index if a marker starts there and the group comes right
behind it (`FlopText.MarkedAt`). The cards of the flop are the words of the group that is marked
first (`FlopText.cards?_eq_some_iff`), and nothing that comes after it counts. What is in front of a
marker does not matter as long as it does not hold the word `FLOP`
(`FlopText.firstMarked_usual`).
-/

namespace HandStudy.FlopText

open Text (Blank IsWords)

/-! ## Markers -/

/-- A marker with a group behind it begins the text, and this is inside the group. -/
inductive BeginsGroup (inside : List Char) : List Char → Prop
  | mk {a b c rest : List Char} : Blank a → Blank b → Blank c → inside ≠ [] → ']' ∉ inside →
      BeginsGroup inside (['*', '*', '*'] ++ (a ++ (['F', 'L', 'O', 'P'] ++ (b ++
        (['*', '*', '*'] ++ (c ++ ('[' :: (inside ++ ']' :: rest))))))))

/-- A group with this inside is marked at the index. -/
def MarkedAt (text : List Char) (n : Nat) (inside : List Char) : Prop :=
  BeginsGroup inside (text.drop n)

/-- The group that is marked at the index is the first that is marked at all. -/
structure FirstMarked (text : List Char) (n : Nat) (inside : List Char) : Prop where
  marked : MarkedAt text n inside
  first : ∀ m < n, ∀ other, ¬ MarkedAt text m other

theorem after?_eq_some_iff {start text rest : List Char} :
    after? start text = some rest ↔ text = start ++ rest := by
  rw [after?]
  split
  · rename_i h
    obtain ⟨more, rfl⟩ := List.isPrefixOf_iff_prefix.1 h
    rw [List.drop_left, Option.some.injEq, List.append_cancel_left_eq]
  · rename_i h
    refine ⟨nofun, ?_⟩
    rintro rfl
    exact absurd (List.isPrefixOf_iff_prefix.2 (List.prefix_append start rest)) h

/-- What does not begin with a blank is found behind blanks. -/
theorem after?_skipBlanks {c : Char} (hc : Text.isBlank c = false) {start text rest : List Char} :
    after? (c :: start) (skipBlanks text) = some rest ↔
      ∃ lead, Blank lead ∧ text = lead ++ (c :: start ++ rest) := by
  rw [after?_eq_some_iff, skipBlanks]
  constructor
  · intro h
    refine ⟨text.takeWhile Text.isBlank, fun d hd => List.mem_takeWhile_imp hd, ?_⟩
    rw [← h, List.takeWhile_append_dropWhile]
  · rintro ⟨lead, hlead, rfl⟩
    rw [List.dropWhile_append_of_pos hlead, List.cons_append, List.dropWhile_cons, hc]
    rfl

/-- The group is closed by the first bracket. -/
theorem inside?_eq_some_iff {text inside : List Char} :
    inside? text = some inside ↔
      inside ≠ [] ∧ ']' ∉ inside ∧ ∃ rest, text = inside ++ ']' :: rest := by
  rw [inside?, List.span_eq_takeWhile_dropWhile]
  constructor
  · intro h
    have htext := List.takeWhile_append_dropWhile (p := (· ≠ ']')) (l := text)
    have hhead := List.head?_dropWhile_not (· ≠ ']') text
    have hinside : ∀ c ∈ text.takeWhile (· ≠ ']'), c ≠ ']' := fun c hc => by
      simpa using List.mem_takeWhile_imp hc
    split at h
    · rename_i c cs d rest heq
      obtain ⟨htake, hdrop⟩ := Prod.mk.inj heq
      rw [htake] at htext hinside
      rw [hdrop] at htext hhead
      obtain rfl : d = ']' := by simpa using hhead
      obtain rfl := Option.some.inj h
      exact ⟨List.cons_ne_nil c cs, fun hc => hinside _ hc rfl, rest, htext.symm⟩
    · cases h
  · rintro ⟨hne, hinside, rest, rfl⟩
    have hall : ∀ c ∈ inside, decide (c ≠ ']') = true := fun c hc => by
      rw [decide_eq_true_iff]
      rintro rfl
      exact hinside hc
    obtain ⟨c, cs, rfl⟩ := List.exists_cons_of_ne_nil hne
    rw [List.takeWhile_append_of_pos hall, List.dropWhile_append_of_pos hall]
    simp

theorem groupHere?_eq_some_iff {text inside : List Char} :
    groupHere? text = some inside ↔ BeginsGroup inside text := by
  have hword : Text.isBlank 'F' = false := rfl
  have hstar : Text.isBlank '*' = false := rfl
  have hbracket : Text.isBlank '[' = false := rfl
  simp only [groupHere?, Option.bind_eq_bind, Option.bind_eq_some_iff, after?_eq_some_iff,
    after?_skipBlanks hword, after?_skipBlanks hstar, after?_skipBlanks hbracket,
    inside?_eq_some_iff]
  constructor
  · rintro ⟨_, rfl, _, ⟨a, ha, rfl⟩, _, ⟨b, hb, rfl⟩, _, ⟨c, hc, rfl⟩, hne, hinside, rest, rfl⟩
    exact .mk ha hb hc hne hinside
  · rintro ⟨ha, hb, hc, hne, hinside⟩
    exact ⟨_, rfl, _, ⟨_, ha, rfl⟩, _, ⟨_, hb, rfl⟩, _, ⟨_, hc, rfl⟩, hne, hinside, _, rfl⟩

/-! ## The scan -/

theorem not_markedAt_nil {n : Nat} {inside : List Char} : ¬ MarkedAt [] n inside := by
  rw [MarkedAt, List.drop_nil]
  exact nofun

theorem markedAt_zero {text inside : List Char} :
    MarkedAt text 0 inside ↔ groupHere? text = some inside :=
  groupHere?_eq_some_iff.symm

/-- What is first behind a character at which no group is marked is first. -/
theorem firstMarked_cons_succ {c : Char} {text inside : List Char} {n : Nat} :
    FirstMarked (c :: text) (n + 1) inside ↔
      (∀ other, ¬ MarkedAt (c :: text) 0 other) ∧ FirstMarked text n inside := by
  constructor
  · intro h
    exact ⟨h.first 0 n.succ_pos, h.marked, fun m hm => h.first (m + 1) (Nat.succ_lt_succ hm)⟩
  · rintro ⟨hzero, h⟩
    refine ⟨h.marked, fun m hm => ?_⟩
    cases m with
    | zero => exact hzero
    | succ m => exact h.first m (Nat.lt_of_succ_lt_succ hm)

/-- The scan finds the group that is marked first. -/
theorem group?_eq_some_iff {text inside : List Char} :
    group? text = some inside ↔ ∃ n, FirstMarked text n inside := by
  induction text with
  | nil => exact ⟨nofun, fun ⟨_, h⟩ => absurd h.marked not_markedAt_nil⟩
  | cons c cs ih =>
    rw [group?]
    cases hhere : groupHere? (c :: cs) with
    | some found =>
      have hfound : MarkedAt (c :: cs) 0 found := markedAt_zero.2 hhere
      constructor
      · intro h
        obtain rfl := Option.some.inj h
        exact ⟨0, hfound, nofun⟩
      · rintro ⟨n, h⟩
        cases n with
        | zero => exact hhere.symm.trans (markedAt_zero.1 h.marked)
        | succ n => exact absurd hfound ((firstMarked_cons_succ.1 h).1 found)
    | none =>
      have hnone : ∀ other, ¬ MarkedAt (c :: cs) 0 other := by
        intro other hother
        rw [markedAt_zero.1 hother] at hhere
        cases hhere
      refine ih.trans ⟨fun ⟨n, h⟩ => ⟨n + 1, firstMarked_cons_succ.2 ⟨hnone, h⟩⟩, ?_⟩
      rintro ⟨n, h⟩
      cases n with
      | zero => exact absurd h.marked (hnone inside)
      | succ n => exact ⟨n, (firstMarked_cons_succ.1 h).2⟩

/-- A group that is marked has a first one. -/
theorem exists_firstMarked {text inside : List Char} {n : Nat} (h : MarkedAt text n inside) :
    ∃ m other, FirstMarked text m other := by
  induction n using Nat.strongRecOn generalizing inside with
  | ind n ih =>
    by_cases hbefore : ∃ m < n, ∃ other, MarkedAt text m other
    · obtain ⟨m, hm, other, hother⟩ := hbefore
      exact ih m hm hother
    · exact ⟨n, inside, h, fun m hm other hother => hbefore ⟨m, hm, other, hother⟩⟩

theorem group?_eq_none_iff {text : List Char} :
    group? text = none ↔ ∀ n inside, ¬ MarkedAt text n inside := by
  constructor
  · intro h n inside hmarked
    obtain ⟨m, other, hfirst⟩ := exists_firstMarked hmarked
    rw [group?_eq_some_iff.2 ⟨m, hfirst⟩] at h
    cases h
  · intro h
    cases hgroup : group? text with
    | none => rfl
    | some inside =>
      obtain ⟨n, hfirst⟩ := group?_eq_some_iff.1 hgroup
      exact absurd hfirst.marked (h n inside)

/-! ## The cards -/

/-- The cards are the words of the first group, if there are any. -/
theorem cards?_of_firstMarked {s : String} {n : Nat} {inside : List Char} {texts : List String}
    (h : FirstMarked s.toList n inside) (hwords : IsWords inside (texts.map String.toList)) :
    cards? s = if texts = [] then none else some texts := by
  have htexts : Text.words (String.ofList inside) = texts := by
    rw [Text.words_eq_iff, String.toList_ofList]
    exact hwords
  rw [cards?, group?_eq_some_iff.2 ⟨n, h⟩]
  simp only [htexts]
  cases texts <;> rfl

/-- Of every text either no group is marked, or one is the first and has words. -/
theorem exists_words (s : String) :
    (group? s.toList = none ∧ cards? s = none) ∨ ∃ n inside, ∃ texts : List String,
      FirstMarked s.toList n inside ∧ IsWords inside (texts.map String.toList) := by
  cases hgroup : group? s.toList with
  | none => exact .inl ⟨rfl, by rw [cards?, hgroup]⟩
  | some inside =>
    obtain ⟨n, hfirst⟩ := group?_eq_some_iff.1 hgroup
    have hwords := Text.words_eq_iff.1 (rfl : Text.words (String.ofList inside) = _)
    rw [String.toList_ofList] at hwords
    exact .inr ⟨n, inside, _, hfirst, hwords⟩

theorem cards?_eq_some_iff {s : String} {texts : List String} :
    cards? s = some texts ↔ texts ≠ [] ∧ ∃ n inside,
      FirstMarked s.toList n inside ∧ IsWords inside (texts.map String.toList) := by
  constructor
  · intro h
    obtain ⟨-, hnone⟩ | ⟨n, inside, ws, hfirst, hws⟩ := exists_words s
    · rw [hnone] at h
      cases h
    · rw [cards?_of_firstMarked hfirst hws] at h
      split at h
      · cases h
      · obtain rfl := Option.some.inj h
        exact ⟨‹_›, n, inside, hfirst, hws⟩
  · rintro ⟨hne, n, inside, hfirst, hwords⟩
    rw [cards?_of_firstMarked hfirst hwords, if_neg hne]

theorem cards?_eq_none_iff {s : String} :
    cards? s = none ↔ (∀ n inside, ¬ MarkedAt s.toList n inside) ∨
      ∃ n inside, FirstMarked s.toList n inside ∧ Blank inside := by
  constructor
  · intro h
    obtain ⟨hgroup, -⟩ | ⟨n, inside, ws, hfirst, hws⟩ := exists_words s
    · exact .inl (group?_eq_none_iff.1 hgroup)
    · rw [cards?_of_firstMarked hfirst hws] at h
      split at h
      · rename_i hnil
        rw [hnil] at hws
        exact .inr ⟨n, inside, hfirst, Text.isWords_nil_iff.1 hws⟩
      · cases h
  · rintro (hnot | ⟨n, inside, hfirst, hblank⟩)
    · obtain ⟨-, hnone⟩ | ⟨n, inside, -, hfirst, -⟩ := exists_words s
      · exact hnone
      · exact absurd hfirst.marked (hnot n inside)
    · have hnil : IsWords inside (([] : List String).map String.toList) := .nil hblank
      rw [cards?_of_firstMarked hfirst hnil, if_pos rfl]

/-! ## What stands before the marker -/

/-- The marker as it is usually written. -/
def usualMarker : List Char :=
  ['*', '*', '*', ' ', 'F', 'L', 'O', 'P', ' ', '*', '*', '*', ' ', '[']

theorem beginsGroup_usual {inside : List Char} (hne : inside ≠ []) (hinside : ']' ∉ inside)
    (rest : List Char) : BeginsGroup inside (usualMarker ++ (inside ++ ']' :: rest)) := by
  have hblank : Blank [' '] := by decide
  exact BeginsGroup.mk hblank hblank hblank hne hinside

/-- What is read up to a character that is not in it is read in front of the character. -/
theorem isPrefix_of_append_eq {w before more rest : List Char} {c : Char} (hc : c ∉ w)
    (h : w ++ more = before ++ c :: rest) : w <+: before := by
  rcases List.append_eq_append_iff.1 h with ⟨mid, hbefore, -⟩ | ⟨mid, hw, hmid⟩
  · exact ⟨mid, hbefore.symm⟩
  · cases mid with
    | nil =>
      rw [List.append_nil] at hw
      exact hw ▸ List.prefix_rfl
    | cons d mid =>
      obtain ⟨rfl, -⟩ := List.cons.inj hmid
      exact absurd (hw ▸ List.mem_append_right before List.mem_cons_self) hc

/-- If a marker begins in front of the usual one then its word stands there: between the stars it
    begins with and its word are only blanks, and the usual marker begins with stars, too. -/
theorem not_beginsGroup_append {before rest inside : List Char} (hne : before ≠ [])
    (hword : ¬ ['F', 'L', 'O', 'P'] <:+: before) :
    ¬ BeginsGroup inside (before ++ (usualMarker ++ rest)) := by
  intro h
  generalize htext : before ++ (usualMarker ++ rest) = text at h
  obtain ⟨ha, -, -, -, -⟩ := h
  rename_i a b c after
  rw [← List.append_assoc ['*', '*', '*']] at htext
  rcases List.append_eq_append_iff.1 htext with ⟨mid, hstars, hmarker⟩ | ⟨mid, hbefore, hmarker⟩
  · -- The word would come after all stars of the usual marker, which were too many then.
    obtain ⟨mid, rfl⟩ : ['*', '*', '*'] <+: mid := isPrefix_of_append_eq (by decide) hmarker
    obtain ⟨d, before, rfl⟩ := List.exists_cons_of_ne_nil hne
    obtain ⟨rfl, -⟩ := List.cons.inj hstars
    have hnone : a.count '*' = 0 :=
      List.count_eq_zero.2 fun hstar => absurd (ha _ hstar) (by decide)
    have hcount := congrArg (List.count '*') hstars
    simp only [List.count_append, List.count_cons_self, List.count_nil, hnone] at hcount
    omega
  · have hmid : ['F', 'L', 'O', 'P'] <+: mid := isPrefix_of_append_eq (by decide) hmarker
    have hsuffix : mid <:+ before := ⟨_, hbefore.symm⟩
    exact hword (hmid.isInfix.trans hsuffix.isInfix)

/-- If the word does not stand before the usual marker, then the group behind it is the first. -/
theorem firstMarked_usual {before inside : List Char} (hword : ¬ ['F', 'L', 'O', 'P'] <:+: before)
    (hne : inside ≠ []) (hinside : ']' ∉ inside) (rest : List Char) :
    FirstMarked (before ++ (usualMarker ++ (inside ++ ']' :: rest))) before.length inside := by
  constructor
  · rw [MarkedAt, List.drop_left]
    exact beginsGroup_usual hne hinside rest
  · intro m hm other
    rw [MarkedAt, List.drop_append_of_le_length hm.le]
    refine not_beginsGroup_append ?_ fun h => hword (h.trans (List.drop_suffix m before).isInfix)
    exact List.ne_nil_of_length_pos (by rw [List.length_drop]; omega)

/-- The cards of a flop are the words inside the group that is marked first: a group behind a
    marker, with at least one character inside, up to the closing bracket. There are none if no
    group is marked, and none if there are only blanks inside the first, whatever comes later.
    Blanks are the characters with the property `White_Space`. So the cards that are written behind
    the usual marker are found if the word `FLOP` does not stand before it. -/
theorem cards_of_firstGroup :
    (∀ c, Text.isBlank c = Unicode.blankSet.contains c) ∧
    (∀ s texts, cards? s = some texts ↔ texts ≠ [] ∧ ∃ n inside,
      FirstMarked s.toList n inside ∧ IsWords inside (texts.map String.toList)) ∧
    (∀ s, cards? s = none ↔ (∀ n inside, ¬ MarkedAt s.toList n inside) ∨
      ∃ n inside, FirstMarked s.toList n inside ∧ Blank inside) ∧
    ∀ (before after : String) (cards : List String), ¬ ['F', 'L', 'O', 'P'] <:+: before.toList →
      cards ≠ [] →
      (∀ card ∈ cards, card ≠ "" ∧ ∀ c ∈ card.toList, Text.isBlank c = false ∧ c ≠ ']') →
      cards? (before ++ "*** FLOP *** [" ++ " ".intercalate cards ++ "]" ++ after) =
        some cards := by
  refine ⟨Text.isBlank_eq_contains, fun _ _ => cards?_eq_some_iff, fun _ => cards?_eq_none_iff,
    fun before after cards hword hne hcards => ?_⟩
  let inside := (" ".intercalate cards).toList
  have htext : (before ++ "*** FLOP *** [" ++ " ".intercalate cards ++ "]" ++ after).toList =
      before.toList ++ (usualMarker ++ (inside ++ ']' :: after.toList)) := by
    simp [inside, usualMarker]
  have hwords : IsWords inside (cards.map String.toList) := by
    have hinside : inside = [' '].intercalate (cards.map String.toList) :=
      String.toList_intercalate
    rw [hinside]
    refine Text.isWords_intercalate fun w hw => ?_
    obtain ⟨card, hcard, rfl⟩ := List.mem_map.1 hw
    obtain ⟨hcard', hchars⟩ := hcards card hcard
    exact ⟨fun h => hcard' (String.toList_eq_nil_iff.1 h), fun c hc => (hchars c hc).1⟩
  have hne' : inside ≠ [] := by
    intro hnil
    rw [hnil] at hwords
    exact hne (List.map_eq_nil_iff.1 (Text.wordsOf_of_isWords hwords).symm)
  have hclosed : ']' ∉ inside := Text.notMem_intercalate (by decide) fun card hcard hc =>
    ((hcards card hcard).2 ']' hc).2 rfl
  have hfirst := firstMarked_usual hword hne' hclosed after.toList
  rw [← htext] at hfirst
  rw [cards?_of_firstMarked hfirst hwords, if_neg hne]

/-- Behind stars and a part of the word the usual marker is found, and its group ends at the first
    bracket. An empty group is passed over, one of blanks is not. -/
theorem cards_of_firstGroup_nearMisses :
    cards? ("***\n** FLO" ++ "*** FLOP *** [" ++ " ".intercalate ["Jd", "[3d", "5d"] ++ "]" ++
        "]\n*** FLOP *** [9c]") = some ["Jd", "[3d", "5d"] ∧
      (∃ n inside, FirstMarked "*** FLOP *** []***FLOP***\u00a0[Jd\n3d]".toList n inside ∧
        IsWords inside (["Jd", "3d"].map String.toList)) ∧
      cards? "*** FLOP *** [\n]*** FLOP *** [Jd]" = none := by
  obtain ⟨-, hsome, -, husual⟩ := cards_of_firstGroup
  have hfound : cards? "*** FLOP *** []***FLOP***\u00a0[Jd\n3d]" = some ["Jd", "3d"] := by
    decide +kernel
  have hword : ¬ ['F', 'L', 'O', 'P'] <:+: "***\n** FLO".toList := by decide +kernel
  have hcards : ∀ card ∈ ["Jd", "[3d", "5d"],
      card ≠ "" ∧ ∀ c ∈ card.toList, Text.isBlank c = false ∧ c ≠ ']' := by simp [Text.isBlank]
  have hblank : cards? "*** FLOP *** [\n]*** FLOP *** [Jd]" = none := by decide +kernel
  exact ⟨husual _ _ _ hword (List.cons_ne_nil _ _) hcards, ((hsome _ _).1 hfound).2, hblank⟩

end HandStudy.FlopText
