import HandStudy.Proofs.TagRule.Tidied
import HandStudy.Proofs.Texture

/-!
# Lists of textures

A rule asks for the texture of a flop by a list of names, and it asks for all of them: with a list it
matches the hands that it matches without one and whose flop has every name in the list
(`TagRule.matches_texture_iff`). A list written after another, a comma between them, has the names of
both (`Texture.parseList_append`), and therefore asks for what both ask for. A list that names
nothing asks for nothing, not even for a flop (`TagRule.matchesHand_of_namesNothing`), and a name
that no tag has is asked for in vain (`TagRule.not_matches_of_mem`).
-/

namespace HandStudy

namespace Texture

/-! ## Names in a list -/

/-- The names that a list is put together of are read back from it, whatever blanks, repetitions and
    empty pieces are in it. -/
theorem parseList_intercalate {names pieces : List String} (h : Text.Lists names pieces) :
    parseList (",".intercalate pieces) = Ordered.ofList names :=
  Ordered.ofList_congr fun _ => h.mem_listEntries_iff

/-- The names that are read from a list make up a list that is read the same. -/
theorem parseList_intercalate_parseList (list : String) :
    parseList (",".intercalate (parseList list)) = parseList list := by
  have hentries : ∀ name ∈ parseList list, Text.IsEntry name := fun name hname =>
    Text.isEntry_of_mem_listEntries (Ordered.mem_ofList.1 hname)
  rw [parseList_intercalate (Text.lists_self hentries), parseList, Ordered.ofList_ofList]

theorem parseList_append (a b : String) :
    parseList (a ++ "," ++ b) = Ordered.union (parseList a) (parseList b) := by
  rw [parseList, Text.listEntries_append, Ordered.ofList_append]
  rfl

theorem mem_parseList_append {a b name : String} :
    name ∈ parseList (a ++ "," ++ b) ↔ name ∈ parseList a ∨ name ∈ parseList b := by
  rw [parseList_append, Ordered.mem_union]

/-! ## Names of tags -/

/-- A tag has this name. -/
def IsTagName (name : String) : Prop :=
  ∃ t : Tag, t.name = name

/-- A board with a tag. -/
def Tag.board : Tag → List Card
  | monotone => [⟨.ace, .hearts⟩]
  | twoTone => [⟨.ace, .hearts⟩, ⟨.ace, .spades⟩]
  | rainbow => [⟨.ace, .hearts⟩, ⟨.ace, .spades⟩, ⟨.ace, .clubs⟩]
  | quads => [⟨.ace, .hearts⟩, ⟨.ace, .spades⟩, ⟨.ace, .clubs⟩, ⟨.ace, .diamonds⟩]
  | trips => [⟨.ace, .hearts⟩, ⟨.ace, .spades⟩, ⟨.ace, .clubs⟩]
  | fullHouse =>
    [⟨.ace, .hearts⟩, ⟨.ace, .spades⟩, ⟨.ace, .clubs⟩, ⟨.two, .hearts⟩, ⟨.two, .spades⟩]
  | twoPair => [⟨.ace, .hearts⟩, ⟨.ace, .spades⟩, ⟨.two, .hearts⟩, ⟨.two, .spades⟩]
  | paired => [⟨.ace, .hearts⟩, ⟨.ace, .spades⟩]
  | high r => [⟨r, .hearts⟩]
  | broadwayHeavy => [⟨.ace, .hearts⟩, ⟨.king, .hearts⟩, ⟨.queen, .hearts⟩]
  | broadwayPresent => [⟨.ace, .hearts⟩, ⟨.king, .hearts⟩, ⟨.two, .hearts⟩]

theorem Tag.mem_analyze_board (t : Tag) : t ∈ analyze t.board := by
  cases t with
  | high r => cases r <;> decide
  | _ => decide

/-- The names of tags are those that can be asked for with success. -/
theorem isTagName_iff {name : String} : IsTagName name ↔
    ∃ required board, name ∈ required ∧ satisfies required (analyze board) = true := by
  simp only [CompiledRule.satisfies_iff]
  constructor
  · rintro ⟨t, rfl⟩
    exact ⟨[t.name], t.board, List.mem_singleton_self t.name,
      List.forall_mem_singleton.2 ⟨t, t.mem_analyze_board, rfl⟩⟩
  · rintro ⟨required, board, hname, hall⟩
    obtain ⟨t, -, ht⟩ := hall name hname
    exact ⟨t, ht⟩

end Texture

/-- The hand has a flop, all of it cards, and its texture has this name. -/
def Hand.FlopHas (h : Hand) (name : String) : Prop :=
  ∃ texts board, h.flopTexts = some texts ∧ Card.parseAll texts = .ok board ∧
    ∃ tag ∈ Texture.analyze board, tag.name = name

theorem Hand.FlopHas.isTagName {h : Hand} {name : String} (hflop : h.FlopHas name) :
    Texture.IsTagName name := by
  obtain ⟨-, -, -, -, tag, -, hname⟩ := hflop
  exact ⟨tag, hname⟩

namespace TagRule

variable {r : TagRule} {h : Hand} {list : String}

/-! ## What a list asks for -/

theorem textureNames?_eq_some_iff {names : List String} :
    { r with texture := some list }.textureNames? = some names ↔
      names ≠ [] ∧ Texture.parseList list = names := by
  rw [textureNames?, Option.map_some]
  cases hnames : Texture.parseList list with
  | nil => simp
  | cons name rest =>
    simp only [Option.some.injEq]
    constructor
    · rintro rfl
      exact ⟨List.cons_ne_nil name rest, rfl⟩
    · exact And.right

/-- A list that names nothing adds nothing to another, before it or after it. -/
theorem parseList_append_of_namesNothing {a : String} (ha : NamesNothing a) (b : String) :
    Texture.parseList (a ++ "," ++ b) = Texture.parseList b ∧
      Texture.parseList (b ++ "," ++ a) = Texture.parseList b := by
  have hnone : Text.listEntries a = [] := Text.listEntries_eq_nil_iff.2 ha
  rw [Texture.parseList, Texture.parseList, Texture.parseList, Text.listEntries_append,
    Text.listEntries_append, hnone, List.nil_append, List.append_nil]
  exact ⟨rfl, rfl⟩

section

variable [Dialect]

/-- The list has a part in no condition but one. -/
theorem meets_texture_iff :
    { r with texture := some list }.Meets h ↔
      { r with texture := none }.Meets h ∧ ∀ name ∈ Texture.parseList list, h.FlopHas name := by
  constructor
  · intro hm
    refine ⟨⟨hm.patterns, nofun, hm.stack, hm.format, hm.gameType, hm.players⟩, ?_⟩
    intro name hname
    have hnames := (textureNames?_eq_some_iff (r := r)).2 ⟨List.ne_nil_of_mem hname, rfl⟩
    obtain ⟨texts, board, htexts, -, hboard, hall⟩ := hm.texture _ hnames
    exact ⟨texts, board, htexts, hboard, hall name hname⟩
  · rintro ⟨hm, hflop⟩
    refine ⟨hm.patterns, ?_, hm.stack, hm.format, hm.gameType, hm.players⟩
    intro names hnames
    obtain ⟨hne, rfl⟩ := textureNames?_eq_some_iff.1 hnames
    obtain ⟨name, hname⟩ := List.exists_mem_of_ne_nil _ hne
    obtain ⟨texts, board, htexts, hboard, -⟩ := hflop name hname
    refine ⟨texts, board, htexts, Hand.flopTexts_ne_nil htexts, hboard, ?_⟩
    -- The flop of a hand is the same for each name.
    intro other hother
    obtain ⟨texts', board', htexts', hboard', hhas⟩ := hflop other hother
    obtain rfl : texts = texts' := Option.some.inj (htexts.symm.trans htexts')
    obtain rfl : board = board' := Except.ok.inj (hboard.symm.trans hboard')
    exact hhas

/-- A rule with a list matches if it does without and the flop has every name in the list. -/
theorem matches_texture_iff :
    { r with texture := some list }.Matches h ↔
      { r with texture := none }.Matches h ∧ ∀ name ∈ Texture.parseList list, h.FlopHas name := by
  have hfault : { r with texture := some list }.firstFault? =
      { r with texture := none }.firstFault? := rfl
  rw [Matches, Matches]
  cases hr : { r with texture := none }.firstFault? with
  | none =>
    rw [matchesHand_eq_true_iff (hfault.trans hr), matchesHand_eq_true_iff hr, meets_texture_iff]
  | some fault =>
    -- A rule that cannot be read matches with no list.
    rw [matchesHand_of_firstFault? (hfault.trans hr), matchesHand_of_firstFault? hr]
    simp

theorem matches_textures_append_iff {a b : String} :
    { r with texture := some (a ++ "," ++ b) }.Matches h ↔
      { r with texture := some a }.Matches h ∧ { r with texture := some b }.Matches h := by
  simp only [matches_texture_iff, Texture.mem_parseList_append]
  constructor
  · rintro ⟨hbare, hall⟩
    exact ⟨⟨hbare, fun name hname => hall name (.inl hname)⟩, hbare,
      fun name hname => hall name (.inr hname)⟩
  · rintro ⟨⟨hbare, ha⟩, -, hb⟩
    exact ⟨hbare, fun name hname => hname.elim (ha name) (hb name)⟩

/-- A name that no tag has is asked for in vain. -/
theorem not_matches_of_mem {name : String} (hname : name ∈ Texture.parseList list)
    (hno : ¬ Texture.IsTagName name) : ¬ { r with texture := some list }.Matches h := by
  intro hmatches
  exact hno ((matches_texture_iff (r := r)).1 hmatches |>.2 name hname).isTagName

/-! ## Lists that name nothing -/

/-- Rules that differ only in how they ask for the same names are answered the same. -/
theorem matchesHand_congr_texture {s t : Option String}
    (hst : { r with texture := s }.textureNames? = { r with texture := t }.textureNames?) (h : Hand) :
    { r with texture := s }.matchesHand h = { r with texture := t }.matchesHand h := by
  have halike : Alike { r with texture := t } { r with texture := s } :=
    ⟨rfl, fun _ => rfl, fun _ => rfl, rfl, hst, rfl, rfl, rfl⟩
  exact halike.matchesHand h

theorem matchesHand_congr_parseList {a b : String} (hab : Texture.parseList a = Texture.parseList b)
    (r : TagRule) (h : Hand) :
    { r with texture := some a }.matchesHand h = { r with texture := some b }.matchesHand h := by
  refine matchesHand_congr_texture ?_ h
  rw [textureNames?, textureNames?, Option.map_some, Option.map_some, hab]

theorem matchesHand_of_namesNothing {a : String} (ha : NamesNothing a) (r : TagRule) (h : Hand) :
    { r with texture := some a }.matchesHand h = { r with texture := none }.matchesHand h := by
  refine matchesHand_congr_texture (textureNames?_eq_none_iff.2 ?_) h
  rw [Option.filter_eq_none_iff]
  rintro list ⟨⟩
  simpa using ha

/-! ## Several lists -/

/-- The names for the texture are a conjunction. Names that are written with commas between them,
    blanks around them, again and again and with nothing in between, are read back as their set; what
    is read from two lists with a comma between them is the union of what is read from each. So a rule
    with both lists matches the hands that it matches with the one and with the other. A list of
    nothing but commas and blanks is as good as none, for hands without a flop as well, and with
    another list as good as only this one. The names that some texture has are those of the tags, and
    a rule that asks for any other matches no hand. -/
theorem textures_conjunctive :
    (∀ names pieces, Text.Lists names pieces →
      Texture.parseList (",".intercalate pieces) = Ordered.ofList names) ∧
    (∀ list, Texture.parseList (",".intercalate (Texture.parseList list)) =
      Texture.parseList list) ∧
    (∀ a b, Texture.parseList (a ++ "," ++ b) =
      Ordered.union (Texture.parseList a) (Texture.parseList b)) ∧
    (∀ (r : TagRule) (h : Hand),
      (∀ a b, { r with texture := some (a ++ "," ++ b) }.Matches h ↔
        { r with texture := some a }.Matches h ∧ { r with texture := some b }.Matches h) ∧
      (∀ a, NamesNothing a →
        { r with texture := some a }.matchesHand h = { r with texture := none }.matchesHand h ∧
        ∀ b,
          { r with texture := some (a ++ "," ++ b) }.matchesHand h =
            { r with texture := some b }.matchesHand h ∧
          { r with texture := some (b ++ "," ++ a) }.matchesHand h =
            { r with texture := some b }.matchesHand h) ∧
      ∀ list name, name ∈ Texture.parseList list → ¬ Texture.IsTagName name →
        ¬ { r with texture := some list }.Matches h) ∧
    ∀ name, Texture.IsTagName name ↔ ∃ required board, name ∈ required ∧
      Texture.satisfies required (Texture.analyze board) = true := by
  refine ⟨fun names pieces => Texture.parseList_intercalate, Texture.parseList_intercalate_parseList,
    Texture.parseList_append, fun r h => ⟨fun a b => matches_textures_append_iff, ?_, ?_⟩,
    fun name => Texture.isTagName_iff⟩
  · intro a ha
    refine ⟨matchesHand_of_namesNothing ha r h, fun b => ?_⟩
    obtain ⟨hbefore, hafter⟩ := parseList_append_of_namesNothing ha b
    exact ⟨matchesHand_congr_parseList hbefore r h, matchesHand_congr_parseList hafter r h⟩
  · intro list name hname hno
    exact not_matches_of_mem hname hno

end

/-- Two names with blanks around them, one of them twice, and pieces with nothing in them; a rule with
    both names on a hand; a list that names nothing, without a flop; and a name that no tag has. -/
theorem textures_conjunctive_padded :
    (Text.Lists ["monotone", "J-high"] [" monotone", "", "\u00a0J-high ", "monotone", " "] ∧
      Texture.parseList " monotone,,\u00a0J-high ,monotone, " = ["J-high", "monotone"]) ∧
    { raisedMonotone with texture := some ("monotone" ++ "," ++ " J-high") }.Matches diamondsHand ∧
    (NamesNothing " ,\u00a0," ∧ ({} : Hand).flopTexts = none ∧
      ({ id := 1, tag := 10, texture := some " ,\u00a0," } : TagRule).Matches {}) ∧
    ("wet" ∈ Texture.parseList "monotone, wet" ∧ ¬ Texture.IsTagName "wet" ∧
      ¬ { raisedMonotone with texture := some "monotone, wet" }.Matches diamondsHand) := by
  obtain ⟨hread, -, -, hrules, -⟩ := textures_conjunctive
  have hmonotone : Text.IsEntry "monotone" := ⟨by decide, by decide, by decide +kernel⟩
  have hjack : Text.IsEntry "J-high" := ⟨by decide, by decide, by decide +kernel⟩
  have hlists : Text.Lists ["monotone", "J-high"]
      [" monotone", "", "\u00a0J-high ", "monotone", " "] := by
    have hfront : Text.IsPadded "monotone" " monotone" := ⟨" ", "", by decide, by decide, rfl⟩
    have hplain : Text.IsPadded "monotone" "monotone" := ⟨"", "", by decide, by decide, rfl⟩
    have hboth : Text.IsPadded "J-high" "\u00a0J-high " :=
      ⟨"\u00a0", " ", by decide, by decide, rfl⟩
    refine ⟨?_, ?_, ?_⟩
    · simp only [List.forall_mem_cons]
      exact ⟨hmonotone, hjack, List.forall_mem_nil _⟩
    · simp only [List.forall_mem_cons]
      exact ⟨.inr ⟨_, .head _, hfront⟩, .inl (by decide), .inr ⟨_, .tail _ (.head _), hboth⟩,
        .inr ⟨_, .head _, hplain⟩, .inl (by decide), List.forall_mem_nil _⟩
    · simp only [List.forall_mem_cons]
      exact ⟨⟨_, .head _, hfront⟩, ⟨_, .tail _ (.tail _ (.head _)), hboth⟩, List.forall_mem_nil _⟩
  have htext : ",".intercalate [" monotone", "", "\u00a0J-high ", "monotone", " "] =
      " monotone,,\u00a0J-high ,monotone, " := by decide +kernel
  have hset : Ordered.ofList ["monotone", "J-high"] = ["J-high", "monotone"] := by decide +kernel
  have hfirst : ({ raisedMonotone with texture := some "monotone" }.matchesHand diamondsHand).value =
      .ok true := by decide +kernel
  have hsecond : ({ raisedMonotone with texture := some " J-high" }.matchesHand diamondsHand).value =
      .ok true := by decide +kernel
  have hnothing : NamesNothing " ,\u00a0," := by decide
  have hwet : "wet" ∈ Texture.parseList "monotone, wet" := by decide +kernel
  have hno : ¬ Texture.IsTagName "wet" := by
    rintro ⟨t, ht⟩
    revert ht
    cases t with
    | high r => cases r <;> decide
    | _ => decide
  refine ⟨⟨hlists, ?_⟩, ?_, ⟨hnothing, rfl, ?_⟩, hwet, hno, ?_⟩
  · rw [← htext, hread _ _ hlists, hset]
  · exact ((hrules raisedMonotone diamondsHand).1 _ _).2 ⟨hfirst, hsecond⟩
  · have hbare := ((hrules { id := 1, tag := 10 } {}).2.1 _ hnothing).1
    rw [Matches, hbare]
    rfl
  · exact (hrules raisedMonotone diamondsHand).2.2 _ _ hwet hno

end TagRule

end HandStudy
