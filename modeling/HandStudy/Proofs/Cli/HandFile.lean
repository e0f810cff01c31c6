import HandStudy.Cli.Run
import HandStudy.Proofs.Text.Lines

/-!
# Files of hands

Every line of a file of hands is blank, or a hand, or neither, and is treated by itself
(`Cli.handOn?`). The hands are loaded in the order of their lines, and the lines that are neither
are skipped in this order, so that every line which is not blank is accounted for once
(`Cli.Accounts`, `Cli.loadHands_eq`).
-/

namespace HandStudy

/-- The text of a file that is read: what the file holds, or what is compressed in it if its name
    says so. It may have a byte order mark. -/
def Workspace.Holds (w : Workspace) (path content : String) : Prop :=
  if path.endsWith ".zst" then w.fileAt? path = some (.compressed content)
  else w.plainText? path = some content

theorem Workspace.Holds.text? {w : Workspace} {path content : String} (h : w.Holds path content) :
    w.text? path = some (withoutMark content) := by
  rw [Holds] at h
  rw [Workspace.text?]
  split at h
  · rename_i hcompressed
    rw [if_pos hcompressed, h]
  · rename_i hplain
    rw [if_neg hplain, h]
    rfl

theorem Workspace.holds_of_plainText? {w : Workspace} {path content : String}
    (hname : ¬ path.endsWith ".zst") (h : w.plainText? path = some content) :
    w.Holds path content := by
  rw [Holds, if_neg hname]
  exact h

namespace Cli

/-! ## Lines -/

/-- The hand that a line holds, blanks at its two ends apart. -/
def handOn? (line : List Char) : Option Hand :=
  (Json.read (String.ofList (Text.trimChars line))).bind fun v => (Hand.decode v).toOption

/-- The line is not blank, and no hand. -/
def Spoilt (line : List Char) : Prop :=
  ¬ Text.Blank line ∧ handOn? line = none

instance (line : List Char) : Decidable (Spoilt line) :=
  decidable_of_iff (¬ Text.Blank line ∧ (handOn? line).isNone) <| by
    rw [Spoilt, Option.isNone_iff_eq_none]

theorem handOn?_of_blank {line : List Char} (h : Text.Blank line) : handOn? line = none := by
  rw [handOn?, Text.trimChars_eq_nil_iff.2 h]
  rfl

/-- A line that is read is a hand with its number, or a bad line. -/
theorem HandLine.read_trimmed (number : Nat) (line : List Char) :
    HandLine.read number (String.ofList (Text.trimChars line)) =
      ((handOn? line).map fun h => .hand ⟨number, h⟩).getD (.bad number) := by
  rw [HandLine.read, handOn?]
  cases Json.read (String.ofList (Text.trimChars line)) with
  | none => rfl
  | some v => cases hv : Hand.decode v <;> simp [hv, Except.toOption]

/-! ## Hands and skipped lines -/

/-- The hands of a text, and the numbers of its lines that are skipped. -/
structure Accounts (text : String) (hands : List LoadedHand) (skipped : List Nat) : Prop where
  hands_iff : ∀ h, h ∈ hands ↔
    ∃ line, (line, h.line) ∈ Text.lines text ∧ handOn? line = some h.hand
  skipped_iff : ∀ n, n ∈ skipped ↔ ∃ line, (line, n) ∈ Text.lines text ∧ Spoilt line
  handsInOrder : hands.Pairwise (·.line < ·.line)
  skippedInOrder : skipped.Pairwise (· < ·)

variable {text : String} {hands : List LoadedHand} {skipped : List Nat}

/-- A line that is not blank is accounted for once, and a blank one not at all. -/
theorem Accounts.once (h : Accounts text hands skipped) :
    ∀ p ∈ Text.lines text, (hands.map LoadedHand.line ++ skipped).count p.2 =
      if Text.Blank p.1 then 0 else 1 := by
  intro p hp
  have hhand : p.2 ∈ hands.map LoadedHand.line ↔ (handOn? p.1).isSome := by
    rw [List.mem_map, Option.isSome_iff_exists]
    constructor
    · rintro ⟨g, hg, hline⟩
      obtain ⟨line, hmem, hhand⟩ := (h.hands_iff g).1 hg
      obtain rfl := Text.eq_of_mem_lines hmem hp hline
      exact ⟨g.hand, hhand⟩
    · rintro ⟨g, hg⟩
      exact ⟨⟨p.2, g⟩, (h.hands_iff _).2 ⟨p.1, hp, hg⟩, rfl⟩
  have hskipped : p.2 ∈ skipped ↔ Spoilt p.1 := by
    rw [h.skipped_iff]
    constructor
    · rintro ⟨line, hmem, hspoilt⟩
      rw [← Text.eq_of_mem_lines hmem hp rfl]
      exact hspoilt
    · exact fun hspoilt => ⟨p.1, hp, hspoilt⟩
  have hhands : (hands.map LoadedHand.line).Nodup :=
    (List.pairwise_map.2 h.handsInOrder).imp Nat.ne_of_lt
  have hnumbers : skipped.Nodup := h.skippedInOrder.imp Nat.ne_of_lt
  rw [List.count_append, hhands.count, hnumbers.count]
  simp only [hhand, hskipped, Spoilt]
  by_cases hblank : Text.Blank p.1
  · simp [hblank, handOn?_of_blank hblank]
  · cases handOn? p.1 <;> simp [hblank]

/-- A line that is known to be a hand with some property has this hand. -/
theorem Accounts.exists_hand (h : Accounts text hands skipped) {α : Type} {f : Hand → α} {a : α}
    {n : Nat} (hline : ∃ p ∈ Text.lines text, p.2 = n ∧ (handOn? p.1).map f = some a) :
    ∃ g, ⟨n, g⟩ ∈ hands ∧ f g = a := by
  obtain ⟨p, hp, rfl, hhand⟩ := hline
  obtain ⟨g, hg, ha⟩ := Option.map_eq_some_iff.1 hhand
  exact ⟨g, (h.hands_iff _).2 ⟨p.1, hp, hg⟩, ha⟩

theorem Accounts.hands_eq_nil_iff (h : Accounts text hands skipped) :
    hands = [] ↔ ∀ p ∈ Text.lines text, handOn? p.1 = none := by
  simp only [List.eq_nil_iff_forall_not_mem, h.hands_iff, Option.eq_none_iff_forall_ne_some]
  constructor
  · exact fun hnone p hp g hg => hnone ⟨p.2, g⟩ ⟨p.1, hp, hg⟩
  · rintro hnone g ⟨line, hline, hg⟩
    exact hnone _ hline _ hg

theorem Accounts.skipped_ne_nil_iff (h : Accounts text hands skipped) :
    skipped ≠ [] ↔ ∃ p ∈ Text.lines text, Spoilt p.1 := by
  constructor
  · intro hne
    obtain ⟨n, hn⟩ := List.exists_mem_of_ne_nil skipped hne
    obtain ⟨line, hline, hspoilt⟩ := (h.skipped_iff n).1 hn
    exact ⟨_, hline, hspoilt⟩
  · rintro ⟨p, hp, hspoilt⟩
    exact List.ne_nil_of_mem ((h.skipped_iff p.2).2 ⟨p.1, hp, hspoilt⟩)

/-- The hands of a text. -/
def handsOf (text : String) : List LoadedHand :=
  (Text.lines text).filterMap fun p => (handOn? p.1).map (LoadedHand.mk p.2)

/-- The numbers of the lines that are skipped. -/
def skippedOf (text : String) : List Nat :=
  (Text.lines text).filterMap fun p => if Spoilt p.1 then some p.2 else none

theorem accounts (text : String) : Accounts text (handsOf text) (skippedOf text) where
  hands_iff h := by
    simp only [handsOf, List.mem_filterMap, Option.map_eq_some_iff]
    constructor
    · rintro ⟨p, hp, g, hg, rfl⟩
      exact ⟨p.1, hp, hg⟩
    · rintro ⟨line, hline, hhand⟩
      exact ⟨_, hline, h.hand, hhand, rfl⟩
  skipped_iff n := by
    simp only [skippedOf, List.mem_filterMap, Option.ite_none_right_eq_some]
    constructor
    · rintro ⟨p, hp, hspoilt, hn⟩
      obtain rfl := Option.some.inj hn
      exact ⟨p.1, hp, hspoilt⟩
    · rintro ⟨line, hline, hspoilt⟩
      exact ⟨_, hline, hspoilt, rfl⟩
  handsInOrder := by
    refine (Text.pairwise_lines text).filterMap _ fun p q hpq g hg g' hg' => ?_
    obtain ⟨-, -, rfl⟩ := Option.map_eq_some_iff.1 hg
    obtain ⟨-, -, rfl⟩ := Option.map_eq_some_iff.1 hg'
    exact hpq
  skippedInOrder := by
    refine (Text.pairwise_lines text).filterMap _ fun p q hpq m hm n hn => ?_
    obtain ⟨-, hm⟩ := Option.ite_none_right_eq_some.1 hm
    obtain ⟨-, hn⟩ := Option.ite_none_right_eq_some.1 hn
    rwa [← Option.some.inj hm, ← Option.some.inj hn]

/-- The lines of a text are loaded one by one. -/
theorem handLines_eq (text : String) :
    (handLines text).filterMap HandLine.hand? = handsOf text ∧
      (handLines text).filterMap HandLine.badNumber? = skippedOf text := by
  have hread : handLines text = (Text.lines text).filterMap fun p =>
      if Text.Blank p.1 then none
      else some (((handOn? p.1).map fun h => .hand ⟨p.2, h⟩).getD (.bad p.2)) := by
    rw [handLines, Text.numberedLines_eq, List.map_filterMap]
    refine List.filterMap_congr fun p _ => ?_
    split
    · rfl
    · exact congrArg some (HandLine.read_trimmed p.2 p.1)
  rw [hread, List.filterMap_filterMap, List.filterMap_filterMap]
  constructor
  · refine List.filterMap_congr fun p _ => ?_
    by_cases hblank : Text.Blank p.1
    · simp [hblank, handOn?_of_blank hblank]
    · cases hhand : handOn? p.1 <;> simp [hblank, HandLine.hand?]
  · refine List.filterMap_congr fun p _ => ?_
    by_cases hblank : Text.Blank p.1
    · simp [hblank, Spoilt]
    · cases hhand : handOn? p.1 <;> simp [hblank, hhand, Spoilt, HandLine.badNumber?]

/-- What is loaded from a file: a notice for each line that is skipped, and the hands, unless there
    are lines to be skipped only. -/
theorem loadHands_eq {w : Workspace} {input : String} (h : w.text? input = some text) :
    loadHands w input =
      ((skippedOf text).map fun n => .notice (.skippedLine n),
        if handsOf text = [] ∧ skippedOf text ≠ [] then .error .noHands
        else .ok (handsOf text)) := by
  obtain ⟨hhands, hskipped⟩ := handLines_eq text
  rw [loadHands, h]
  simp only [hhands, hskipped]
  simp

/-! ## An example -/

/-- A text with a byte order mark, two line endings, a hand with a label on the first line and one
    without on the last, blank lines, and a line that is no hand. -/
def mixedLines : String :=
  "\ufeff\x7b\"hand_id\":\"first\",\"preflop\":\"4r6c\"\x7d\r\n\n  \nspoilt\r\n\x7b\x7d"

/-- Its fourth line is skipped. -/
example : skippedOf (Workspace.withoutMark mixedLines) = [4] := by
  decide +kernel

/-- A file with this text, and a library. -/
def mixedWorkspace (s : Store) : Workspace where
  files := [(["hands.jsonl"], .text mixedLines), (["library.db"], .store s)]

theorem mixedWorkspace_holds (s : Store) : (mixedWorkspace s).Holds "hands.jsonl" mixedLines :=
  Workspace.holds_of_plainText? (by decide +kernel) rfl

theorem mixedWorkspace_openExisting (s : Store) :
    (mixedWorkspace s).openExisting "library.db" =
      .ok (⟨some ["library.db"], some s⟩, mixedWorkspace s) := rfl

end Cli

end HandStudy
