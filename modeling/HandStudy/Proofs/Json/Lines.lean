import HandStudy.Proofs.Json.RoundTrip
import HandStudy.Proofs.Text.Lines

/-!
# Values on lines

A value is written on one line: line ends inside of texts are escaped
(`Json.newline_notMem_print`). So values that are written line by line can be read line by line
(`Json.onLines_join`).
-/

namespace HandStudy.Json

/-! ## One line -/

theorem newline_notMem_of_isBare {cs : List Char} (h : ∀ c ∈ cs, isBare c = true) : '\n' ∉ cs :=
  fun hc => absurd (h _ hc) (by decide)

theorem hexDigit_ne_newline : ∀ n < 16, '\n' ≠ hexDigit n := by
  decide

theorem newline_notMem_escapeChar (c : Char) : '\n' ∉ escapeChar c := by
  unfold escapeChar
  repeat' split
  all_goals try decide
  -- A control character that has no escape of its own is written with two digits.
  · rename_i hcontrol
    have hlt : c.toNat < 32 := hcontrol
    have hhigh := hexDigit_ne_newline (c.toNat / 16) (by omega)
    have hlow := hexDigit_ne_newline (c.toNat % 16) (by omega)
    simp [hhigh, hlow]
  · rename_i hn _ _ _
    simpa using Ne.symm hn

theorem newline_notMem_quote (s : String) : '\n' ∉ (quote s).toList := by
  simp [quote, newline_notMem_escapeChar]

theorem newline_notMem_intercalate {texts : List String} (h : ∀ t ∈ texts, '\n' ∉ t.toList) :
    '\n' ∉ (",".intercalate texts).toList :=
  Text.notMem_intercalate (by decide) h

mutual

/-- A value is written on one line. -/
theorem newline_notMem_print : ∀ v : Json, '\n' ∉ (print v).toList
  | .null | .void => by simp [print]
  | .bool true | .bool false => by simp [print]
  | .int _ => newline_notMem_of_isBare fun _ => isBare_toString
  | .float _ => newline_notMem_of_isBare fun _ => isBare_printFloat
  | .str s => newline_notMem_quote s
  | .arr items => by
    have hinside := newline_notMem_intercalate (newline_notMem_printItems items)
    simpa [print] using hinside
  | .obj fields => by
    have hinside := newline_notMem_intercalate (newline_notMem_printFields fields)
    simpa [print] using hinside

theorem newline_notMem_printItems : ∀ items : List Json, ∀ t ∈ printItems items, '\n' ∉ t.toList
  | [] => by simp [printItems]
  | v :: items => by
    simpa [printItems, newline_notMem_print v] using newline_notMem_printItems items

theorem newline_notMem_printFields : ∀ fields : List (String × Json),
    ∀ t ∈ printFields fields, '\n' ∉ t.toList
  | [] => by simp [printFields]
  | (key, v) :: fields => by
    simpa [printFields, newline_notMem_print v, newline_notMem_quote] using
      newline_notMem_printFields fields

end

/-! ## Many lines -/

/-- The text is the values, each written on a line of its own, and read from it. -/
structure OnLines (text : String) (values : List Json) : Prop where
  lines : text.toList.splitOn '\n' = values.map (fun v => (print v).toList) ++ [[]]
  read : ∀ v ∈ values, readWhole (print v) = some v

/-- The value lasts, and lists and objects are nested in it no deeper than this. -/
def LastsWithin (n : Nat) (v : Json) : Prop :=
  Lasts v ∧ depth v ≤ n

theorem LastsWithin.mono {m n : Nat} {v : Json} (h : LastsWithin m v) (hmn : m ≤ n) :
    LastsWithin n v :=
  ⟨h.1, h.2.trans hmn⟩

theorem lastsWithin_int64 (n : Nat) (i : Int64) : LastsWithin n (.int i.toInt) := by
  have hhigh : i.toInt < 2 ^ 63 := i.toInt_lt
  exact ⟨⟨i.minValue_le_toInt, by simp only [UInt64.size]; omega⟩, Nat.zero_le n⟩

theorem lastsWithin_str (n : Nat) (s : String) : LastsWithin n (.str s) :=
  ⟨trivial, Nat.zero_le n⟩

theorem lastsWithin_ofOption {α : Type} {n : Nat} {write : α → Json}
    (h : ∀ a, LastsWithin n (write a)) (o : Option α) : LastsWithin n (ofOption write o) := by
  cases o with
  | none => exact ⟨trivial, Nat.zero_le n⟩
  | some a => exact h a

theorem lastsWithin_ofList {α : Type} {n : Nat} {write : α → Json}
    (h : ∀ a, LastsWithin n (write a)) (l : List α) : LastsWithin (n + 1) (ofList write l) := by
  have hitems : ItemsLast (l.map write) ∧ itemsDepth (l.map write) ≤ n := by
    induction l with
    | nil => exact ⟨trivial, Nat.zero_le n⟩
    | cons a l ih => exact ⟨⟨(h a).1, ih.1⟩, Nat.max_le.2 ⟨(h a).2, ih.2⟩⟩
  exact ⟨hitems.1, Nat.succ_le_succ hitems.2⟩

theorem lastsWithin_obj {n : Nat} {fields : List (String × Json)}
    (h : fields.Forall fun p => LastsWithin n p.2) : LastsWithin (n + 1) (.obj fields) := by
  have hfields : FieldsLast fields ∧ fieldsDepth fields ≤ n := by
    induction fields with
    | nil => exact ⟨trivial, Nat.zero_le n⟩
    | cons p fields ih =>
      obtain ⟨hp, hrest⟩ := (List.forall_cons _ p fields).1 h
      exact ⟨⟨hp.1, (ih hrest).1⟩, Nat.max_le.2 ⟨hp.2, (ih hrest).2⟩⟩
  exact ⟨hfields.1, Nat.succ_le_succ hfields.2⟩

/-- Values that last are read from a text to which they were written line by line. -/
theorem onLines_join {values : List Json} (h : ∀ v ∈ values, LastsWithin Builder.maxDepth v) :
    OnLines (String.join (values.map fun v => print v ++ "\n")) values where
  lines := by
    have hlines := Text.splitOn_join (values.map print) <|
      List.forall_mem_map.2 fun v _ => newline_notMem_print v
    simpa [List.map_map, Function.comp_def] using hlines
  read v hv := by
    rw [readWhole_print (h v hv).1, if_pos (h v hv).2]

end HandStudy.Json
