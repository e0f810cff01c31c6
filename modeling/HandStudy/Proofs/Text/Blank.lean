import HandStudy.Proofs.Text.Lines
import HandStudy.Unicode.Word
import Mathlib.Data.List.DropRight

/-!
# Blanks, words and entries

The blank characters are those with the property `White_Space` in the tables of Unicode
(`Text.isBlank_eq_contains`). A trimmed text has nothing more to trim (`trim_trim`), and a list
has no entries if there is nothing in it but commas and blanks (`listEntries_eq_nil_iff`). From
entries with commas between them the same entries are read, and the blanks around them make no
difference (`Lists.mem_listEntries_iff`). The words of a text are what is written between its blanks
(`IsWords`, `words_eq_iff`).
-/

namespace HandStudy.Text

/-! ## Blank characters -/

theorem ranges_blankSet : Unicode.blankSet.ranges =
    [(0x9, 0xD), (0x20, 0x20), (0x85, 0x85), (0xA0, 0xA0), (0x1680, 0x1680), (0x2000, 0x200A),
      (0x2028, 0x2029), (0x202F, 0x202F), (0x205F, 0x205F), (0x3000, 0x3000)] := by
  decide +kernel

theorem isBlank_eq_contains (c : Char) : isBlank c = Unicode.blankSet.contains c := by
  have hle (d e : Char) : d ≤ e ↔ d.toNat ≤ e.toNat := Iff.rfl
  rw [Bool.eq_iff_iff, CharSet.contains, ranges_blankSet]
  simp only [isBlank, CharSet.inRanges, Bool.or_eq_true, Bool.and_eq_true, decide_eq_true_iff,
    ← Char.toNat_inj, hle, Char.reduceToNat, Bool.false_eq_true, or_false]
  omega

theorem blank_cons {c : Char} {cs : List Char} : Blank (c :: cs) ↔ isBlank c ∧ Blank cs :=
  List.forall_mem_cons

/-! ## Trimming -/

theorem trimChars_eq (cs : List Char) :
    trimChars cs = (cs.dropWhile isBlank).rdropWhile isBlank := rfl

/-- The blanks at both ends are gone at once. -/
theorem trimChars_trimChars (cs : List Char) : trimChars (trimChars cs) = trimChars cs := by
  have hfront : (trimChars cs).dropWhile isBlank = trimChars cs := by
    rw [List.dropWhile_eq_self_iff]
    intro hpos
    -- What is left begins like the text without the blanks in front.
    have hbegins : trimChars cs <+: cs.dropWhile isBlank := List.rdropWhile_prefix _ _
    rw [hbegins.getElem hpos]
    exact List.dropWhile_get_zero_not isBlank cs (hpos.trans_le hbegins.length_le)
  rw [trimChars_eq, hfront, trimChars_eq, List.rdropWhile_idempotent]

/-- Blanks around a text are no part of what is left of it. -/
theorem trimChars_padded {lead trail : List Char} (hlead : Blank lead) (htrail : Blank trail)
    (cs : List Char) : trimChars (lead ++ cs ++ trail) = trimChars cs := by
  have hfront (ds : List Char) : trimChars (lead ++ ds) = trimChars ds := by
    rw [trimChars, trimChars, List.dropWhile_append_of_pos hlead]
  rw [List.append_assoc, hfront]
  by_cases hblank : Blank cs
  · rw [trimChars_eq_nil_iff.2 hblank, trimChars_eq_nil_iff]
    exact List.forall_mem_append.2 ⟨hblank, htrail⟩
  · -- Something of the text is left when the blanks in front are gone, so those behind are not.
    have hleft : (cs.dropWhile isBlank).isEmpty = false := by
      rw [List.isEmpty_eq_false_iff]
      exact fun hnil => hblank (List.dropWhile_eq_nil_iff.1 hnil)
    have hback : ∀ c ∈ trail.reverse, isBlank c := fun c hc => htrail c (List.mem_reverse.1 hc)
    rw [trimChars, trimChars, List.dropWhile_append, hleft, if_neg Bool.false_ne_true,
      List.reverse_append, List.dropWhile_append_of_pos hback]

theorem trim_trim (s : String) : trim (trim s) = trim s := by
  rw [trim, trim, String.toList_ofList, trimChars_trimChars]

theorem trim?_eq (s : String) : trim? s = if trim s = "" then none else some (trim s) := by
  rw [trim?, trim]
  cases hcs : trimChars s.toList with
  | nil => rfl
  | cons c cs =>
    have hne : String.ofList (c :: cs) ≠ "" := by simp
    rw [if_neg hne]

theorem trim?_eq_none_iff {s : String} : trim? s = none ↔ Blank s.toList := by
  rw [← trimChars_eq_nil_iff, trim?]
  cases trimChars s.toList <;> simp

/-! ## Entries of a list -/

/-- Cutting takes away the separators and nothing else. -/
theorem flatten_fields (isSeparator : Char → Bool) (cs : List Char) :
    (fields isSeparator cs).flatten = cs.filter fun c => !isSeparator c := by
  induction cs with
  | nil => rfl
  | cons c cs ih =>
    rw [fields, List.filter_cons, ← ih]
    by_cases hc : isSeparator c
    · simp [hc]
    · cases fields isSeparator cs <;> simp [hc]

theorem listEntries_eq_nil_iff {s : String} :
    listEntries s = [] ↔ ∀ c ∈ s.toList, c = ',' ∨ isBlank c := by
  have hfields : listEntries s = [] ↔
      ∀ piece ∈ fields (· = ',') s.toList, trimChars piece = [] := by
    simp [listEntries]
  rw [hfields]
  simp only [trimChars_eq_nil_iff, Blank]
  rw [← List.forall_mem_flatten, flatten_fields]
  simp [List.mem_filter, or_iff_not_imp_left]

/-- After a comma the list goes on with the entries of what comes then. -/
theorem listEntries_append (s t : String) :
    listEntries (s ++ "," ++ t) = listEntries s ++ listEntries t := by
  have htext : (s ++ "," ++ t).toList = s.toList ++ ',' :: t.toList := by simp
  rw [listEntries, htext, fields_append_cons rfl, List.map_append, List.filter_append,
    List.map_append]
  rfl

theorem listEntries_intercalate (pieces : List String) :
    listEntries (",".intercalate pieces) = pieces.flatMap listEntries := by
  induction pieces with
  | nil => rfl
  | cons piece pieces ih =>
    cases pieces with
    | nil => simp
    | cons next pieces =>
      rw [String.intercalate_cons_cons, listEntries_append, ih]
      exact List.flatMap_cons.symm

/-! ## Lists put together of pieces -/

/-- A text that can be an entry: something is in it, but no comma and no blanks at its ends. -/
structure IsEntry (s : String) : Prop where
  ne_empty : s ≠ ""
  noComma : ',' ∉ s.toList
  trimmed : trim s = s

/-- The text is an entry with blanks around it, which may be none. -/
def IsPadded (entry piece : String) : Prop :=
  ∃ lead trail, Blank lead.toList ∧ Blank trail.toList ∧ piece = lead ++ entry ++ trail

/-- The pieces list the entries, in any order and as often as may be: each piece is an entry with
    blanks around it, or has nothing but blanks in it, and no entry is left out. -/
structure Lists (entries pieces : List String) : Prop where
  isEntry : ∀ e ∈ entries, IsEntry e
  padded : ∀ piece ∈ pieces, Blank piece.toList ∨ ∃ e ∈ entries, IsPadded e piece
  listed : ∀ e ∈ entries, ∃ piece ∈ pieces, IsPadded e piece

theorem listEntries_of_blank {piece : String} (h : Blank piece.toList) : listEntries piece = [] :=
  listEntries_eq_nil_iff.2 fun c hc => .inr (h c hc)

theorem noComma_of_blank {cs : List Char} (h : Blank cs) : ',' ∉ cs := fun hc =>
  absurd (h ',' hc) (by decide)

theorem listEntries_of_padded {entry piece : String} (hentry : IsEntry entry)
    (h : IsPadded entry piece) : listEntries piece = [entry] := by
  obtain ⟨lead, trail, hlead, htrail, rfl⟩ := h
  have hcomma : ∀ c ∈ (lead ++ entry ++ trail).toList, decide (c = ',') = false := by
    rintro c hc
    rw [decide_eq_false_iff_not]
    rintro rfl
    rw [String.toList_append, String.toList_append, List.mem_append, List.mem_append] at hc
    rcases hc with (hc | hc) | hc
    · exact noComma_of_blank hlead hc
    · exact hentry.noComma hc
    · exact noComma_of_blank htrail hc
  have hchars : trimChars entry.toList = entry.toList := by
    rw [← String.toList_ofList (l := trimChars entry.toList)]
    exact congrArg String.toList hentry.trimmed
  have hleft : trimChars (lead ++ entry ++ trail).toList = entry.toList := by
    rw [String.toList_append, String.toList_append, trimChars_padded hlead htrail, hchars]
  rw [listEntries, fields_eq_splitOnP, List.splitOnP_eq_singleton hcomma, List.map_singleton, hleft]
  simp [hentry.ne_empty]

/-- In a list that is put together of pieces, the entries are found again. -/
theorem Lists.mem_listEntries_iff {entries pieces : List String} (h : Lists entries pieces)
    {e : String} : e ∈ listEntries (",".intercalate pieces) ↔ e ∈ entries := by
  rw [listEntries_intercalate, List.mem_flatMap]
  constructor
  · rintro ⟨piece, hpiece, he⟩
    rcases h.padded piece hpiece with hblank | ⟨entry, hentry, hpadded⟩
    · rw [listEntries_of_blank hblank] at he
      cases he
    · rw [listEntries_of_padded (h.isEntry entry hentry) hpadded, List.mem_singleton] at he
      exact he ▸ hentry
  · intro he
    obtain ⟨piece, hpiece, hpadded⟩ := h.listed e he
    refine ⟨piece, hpiece, ?_⟩
    rw [listEntries_of_padded (h.isEntry e he) hpadded]
    exact List.mem_singleton_self e

/-- Entries list themselves. -/
theorem lists_self {entries : List String} (h : ∀ e ∈ entries, IsEntry e) :
    Lists entries entries := by
  have hself (e : String) : IsPadded e e := ⟨"", "", nofun, nofun, by simp⟩
  exact ⟨h, fun e he => .inr ⟨e, he, hself e⟩, fun e he => ⟨e, he, hself e⟩⟩

theorem isEntry_of_mem_listEntries {s e : String} (h : e ∈ listEntries s) : IsEntry e := by
  obtain ⟨cs, hcs, rfl⟩ := List.mem_map.1 h
  obtain ⟨hcs, hne⟩ := List.mem_filter.1 hcs
  obtain ⟨piece, hpiece, rfl⟩ := List.mem_map.1 hcs
  have hcomma : ',' ∉ piece := by
    intro hc
    have hflat : ',' ∈ (fields (· = ',') s.toList).flatten := List.mem_flatten.2 ⟨piece, hpiece, hc⟩
    rw [flatten_fields] at hflat
    exact absurd (List.mem_filter.1 hflat).2 (by decide)
  have hsub : trimChars piece ⊆ piece := fun c hc =>
    (List.dropWhile_suffix _).subset ((List.rdropWhile_prefix _ _).subset hc)
  refine ⟨?_, ?_, ?_⟩
  · simpa using hne
  · rw [String.toList_ofList]
    exact fun hc => hcomma (hsub hc)
  · rw [trim, String.toList_ofList, trimChars_trimChars]

/-! ## Words -/

/-- The characters are these words, with blanks around them and between any two. -/
inductive IsWords : List Char → List (List Char) → Prop
  | nil {cs : List Char} : Blank cs → IsWords cs []
  | cons {lead word rest : List Char} {ws : List (List Char)} :
      Blank lead → word ≠ [] → (∀ c ∈ word, isBlank c = false) → (∀ c ∈ rest.head?, isBlank c) →
        IsWords rest ws → IsWords (lead ++ (word ++ rest)) (word :: ws)

/-- The words of some characters. -/
def wordsOf (cs : List Char) : List (List Char) :=
  (fields isBlank cs).filter (· ≠ [])

theorem wordsOf_append_cons (cs ds : List Char) {c : Char} (hc : isBlank c) :
    wordsOf (cs ++ c :: ds) = wordsOf cs ++ wordsOf ds := by
  rw [wordsOf, fields_append_cons hc, List.filter_append]
  rfl

theorem wordsOf_append_of_blank {lead : List Char} (h : Blank lead) (cs : List Char) :
    wordsOf (lead ++ cs) = wordsOf cs := by
  induction lead with
  | nil => rfl
  | cons c lead ih =>
    obtain ⟨hc, hlead⟩ := blank_cons.1 h
    exact (wordsOf_append_cons [] (lead ++ cs) hc).trans (ih hlead)

theorem wordsOf_word {word : List Char} (hne : word ≠ []) (h : ∀ c ∈ word, isBlank c = false) :
    wordsOf word = [word] := by
  rw [wordsOf, fields_eq_splitOnP, List.splitOnP_eq_singleton h]
  simp [hne]

theorem wordsOf_of_isWords {cs : List Char} {ws : List (List Char)} (h : IsWords cs ws) :
    wordsOf cs = ws := by
  induction h with
  | @nil cs h =>
    rw [← List.append_nil cs, wordsOf_append_of_blank h]
    rfl
  | @cons lead word rest ws hlead hne hword hrest _ ih =>
    rw [wordsOf_append_of_blank hlead]
    cases rest with
    | nil =>
      rw [List.append_nil, wordsOf_word hne hword, ← ih]
      rfl
    | cons c rest =>
      have hc : isBlank c := hrest c rfl
      rw [wordsOf_append_cons word rest hc, wordsOf_word hne hword, ← ih,
        show c :: rest = [c] ++ rest from rfl,
        wordsOf_append_of_blank (blank_cons.2 ⟨hc, List.forall_mem_nil _⟩)]
      rfl

/-- Another blank in front makes no difference. -/
theorem IsWords.cons_blank {c : Char} (hc : isBlank c) {cs : List Char} {ws : List (List Char)}
    (h : IsWords cs ws) : IsWords (c :: cs) ws := by
  cases h with
  | nil h => exact .nil (blank_cons.2 ⟨hc, h⟩)
  | cons hlead hne hword hrest h => exact .cons (blank_cons.2 ⟨hc, hlead⟩) hne hword hrest h

/-- Any characters are some words. -/
theorem exists_isWords (cs : List Char) : ∃ ws, IsWords cs ws := by
  induction cs with
  | nil => exact ⟨[], .nil nofun⟩
  | cons c cs ih =>
    obtain ⟨ws, hws⟩ := ih
    by_cases hc : isBlank c
    · exact ⟨ws, hws.cons_blank hc⟩
    · -- Any other character begins the word that comes next, or is one if a blank does.
      have hc : isBlank c = false := Bool.not_eq_true _ ▸ hc
      have hsingle : ∀ d ∈ [c], isBlank d = false := List.forall_mem_singleton.2 hc
      by_cases hnext : ∀ d ∈ cs.head?, isBlank d
      · have h : IsWords ([] ++ ([c] ++ cs)) ([c] :: ws) :=
          .cons (List.forall_mem_nil _) (List.cons_ne_nil c []) hsingle hnext hws
        exact ⟨_, h⟩
      · cases hws with
        | nil h => exact absurd (fun d hd => h d (List.mem_of_mem_head? hd)) hnext
        | @cons lead word rest ws hlead hne hword hrest h =>
          rcases lead with _ | ⟨d, lead⟩
          · have h : IsWords ([] ++ ((c :: word) ++ rest)) ((c :: word) :: ws) :=
              .cons hlead (List.cons_ne_nil c word) (List.forall_mem_cons.2 ⟨hc, hword⟩) hrest h
            exact ⟨_, h⟩
          · have hd : ∀ e ∈ (d :: lead ++ (word ++ rest)).head?, isBlank e := by
              rintro e ⟨⟩
              exact (blank_cons.1 hlead).1
            exact absurd hd hnext

theorem wordsOf_eq_iff {cs : List Char} {ws : List (List Char)} :
    wordsOf cs = ws ↔ IsWords cs ws := by
  refine ⟨?_, wordsOf_of_isWords⟩
  rintro rfl
  obtain ⟨ws, hws⟩ := exists_isWords cs
  rwa [wordsOf_of_isWords hws]

theorem words_eq_iff {s : String} {texts : List String} :
    words s = texts ↔ IsWords s.toList (texts.map String.toList) := by
  have hwords : words s = (wordsOf s.toList).map String.ofList := rfl
  rw [hwords, ← wordsOf_eq_iff]
  constructor
  · rintro rfl
    simp
  · intro h
    rw [h]
    simp

/-- There are no words if and only if all is blank. -/
theorem isWords_nil_iff {cs : List Char} : IsWords cs [] ↔ Blank cs := by
  refine ⟨fun h => ?_, .nil⟩
  cases h with
  | nil h => exact h

/-- Words with one blank between any two of them are found again. -/
theorem isWords_intercalate {ws : List (List Char)}
    (h : ∀ w ∈ ws, w ≠ [] ∧ ∀ c ∈ w, isBlank c = false) : IsWords ([' '].intercalate ws) ws := by
  induction ws with
  | nil => exact .nil (List.forall_mem_nil _)
  | cons w ws ih =>
    obtain ⟨⟨hne, hw⟩, hws⟩ := List.forall_mem_cons.1 h
    rcases ws with _ | ⟨v, ws⟩
    · have hlast : IsWords ([] ++ (w ++ [])) [w] :=
        .cons (List.forall_mem_nil _) hne hw nofun (.nil (List.forall_mem_nil _))
      rw [List.nil_append, List.append_nil] at hlast
      rwa [List.intercalate_singleton]
    · have hblank : isBlank ' ' := rfl
      have hmore : IsWords ([] ++ (w ++ ' ' :: [' '].intercalate (v :: ws))) (w :: v :: ws) :=
        .cons (List.forall_mem_nil _) hne hw (by simp [hblank]) ((ih hws).cons_blank hblank)
      rw [List.intercalate_cons_cons, List.append_assoc]
      exact hmore

end HandStudy.Text
