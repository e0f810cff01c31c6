import HandStudy.Text.Blank
import Mathlib.Data.List.Nodup
import Mathlib.Data.List.TakeWhile

/-!
# Lines

The pieces of a text between separators are those of `List.splitOnP`, and the lines of a text
(`Text.lines`) are its pieces between line ends, each with its number. A text that is written
line by line has these lines (`Text.splitOn_join`).
-/

namespace HandStudy.Text

theorem fields_eq_splitOnP (p : Char → Bool) (cs : List Char) : fields p cs = cs.splitOnP p := by
  induction cs with
  | nil => rfl
  | cons c cs ih =>
    rw [fields, List.splitOnP_cons_eq_if_modifyHead, ih]
    split
    · rfl
    · cases hpieces : cs.splitOnP p with
      | nil => exact absurd hpieces (List.splitOnP_ne_nil p cs)
      | cons piece pieces => rfl

/-- At a separator, what comes before it and what comes after it are cut each for itself. -/
theorem fields_append_cons {p : Char → Bool} {c : Char} (hc : p c) (cs ds : List Char) :
    fields p (cs ++ c :: ds) = fields p cs ++ fields p ds := by
  rw [fields_eq_splitOnP, fields_eq_splitOnP, fields_eq_splitOnP, List.splitOnP_append_cons _ _ hc]

/-- There is nothing but blanks. -/
def Blank (cs : List Char) : Prop :=
  ∀ c ∈ cs, isBlank c

instance (cs : List Char) : Decidable (Blank cs) :=
  List.decidableBAll (fun c => isBlank c = true) cs

/-- Nothing is left of blanks when they are trimmed. -/
theorem trimChars_eq_nil_iff {cs : List Char} : trimChars cs = [] ↔ Blank cs := by
  rw [trimChars, List.reverse_eq_nil_iff, List.dropWhile_eq_nil_iff]
  simp only [List.mem_reverse]
  constructor
  · intro h c hc
    -- What was dropped from the front is blank too.
    rw [← List.takeWhile_append_dropWhile (p := isBlank) (l := cs), List.mem_append] at hc
    rcases hc with hc | hc
    · exact List.mem_takeWhile_imp hc
    · exact h c hc
  · intro h c hc
    exact h c ((List.dropWhile_suffix _).subset hc)

/-- What is in none of some texts nor between them is not in all of them together. -/
theorem notMem_intercalate {c : Char} {separator : String} (hc : c ∉ separator.toList)
    {texts : List String} (h : ∀ t ∈ texts, c ∉ t.toList) :
    c ∉ (separator.intercalate texts).toList := by
  induction texts with
  | nil => simp
  | cons t texts ih =>
    have hrest := ih fun u hu => h u (List.mem_cons_of_mem _ hu)
    cases texts with
    | nil => simpa using h
    | cons u texts => simpa [String.intercalate_cons_cons, h t, hc] using hrest

/-- The lines of a text, each with its number. They are counted from one, blank ones
    included. -/
def lines (s : String) : List (List Char × Nat) :=
  (s.toList.splitOn '\n').zipIdx 1

theorem pairwise_lines (s : String) : (lines s).Pairwise fun p q => p.2 < q.2 := by
  refine List.pairwise_map.1 ?_
  rw [lines, List.zipIdx_map_snd]
  exact List.pairwise_lt_range' 1

/-- A number is that of one line only. -/
theorem eq_of_mem_lines {s : String} {p q : List Char × Nat} (hp : p ∈ lines s) (hq : q ∈ lines s)
    (h : p.2 = q.2) : p = q := by
  have hnodup : ((lines s).map Prod.snd).Nodup := by
    rw [lines, List.zipIdx_map_snd]
    exact List.nodup_range'
  exact List.inj_on_of_nodup_map hnodup hp hq h

theorem numberedLines_eq (s : String) :
    numberedLines s = (lines s).filterMap fun p =>
      if Blank p.1 then none else some (p.2, String.ofList (trimChars p.1)) := by
  have hfields : fields (· = '\n') s.toList = s.toList.splitOn '\n' := by
    rw [fields_eq_splitOnP, List.splitOn_eq_splitOnP]
    rfl
  rw [numberedLines, lines, hfields]
  refine List.filterMap_congr fun p _ => ?_
  simp only [← trimChars_eq_nil_iff]
  cases trimChars p.1 <;> rfl

/-- Lines that are written one after the other are found again, and after them an empty one. -/
theorem splitOn_join (ls : List String) (h : ∀ l ∈ ls, '\n' ∉ l.toList) :
    (String.join (ls.map (· ++ "\n"))).toList.splitOn '\n' = ls.map String.toList ++ [[]] := by
  induction ls with
  | nil => rfl
  | cons l ls ih =>
    have htext : (String.join ((l :: ls).map (· ++ "\n"))).toList =
        l.toList ++ '\n' :: (String.join (ls.map (· ++ "\n"))).toList := by
      simp [String.join_cons]
    have hline : ∀ c ∈ l.toList, (c == '\n') = false := by
      intro c hc
      refine beq_eq_false_iff_ne.2 ?_
      rintro rfl
      exact h l List.mem_cons_self hc
    rw [htext, List.splitOn_eq_splitOnP, List.splitOnP_append_cons_of_forall_mem hline _ rfl,
      ← List.splitOn_eq_splitOnP, ih fun m hm => h m (List.mem_cons_of_mem _ hm)]
    rfl

end HandStudy.Text
