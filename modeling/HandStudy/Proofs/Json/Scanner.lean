import HandStudy.Proofs.Json.Numbers
import Mathlib.Data.List.Forall2

/-!
# The tokens of what was written

The scanner finds in a written value the tokens that the value is made of
(`Json.scans_print`), if its numbers are read as they were. A word or number ends where a
comma, a bracket or the end of the text is met; until then the scanner has it in hand
(`Scanner.Settled`).
-/

namespace HandStudy.Json

/-! ## Tokens -/

/-- Lists of tokens with commas between them. -/
def separated : List (List Token) → List Token
  | [] => []
  | [a] => a
  | a :: b :: l => a ++ .mark ',' :: separated (b :: l)

mutual

/-- The tokens of a value. -/
def tokensOf : Json → List Token
  | .arr items => .mark '[' :: separated (tokensOfItems items) ++ [.mark ']']
  | .obj fields => .mark '{' :: separated (tokensOfFields fields) ++ [.mark '}']
  | v => [.value v]

/-- The tokens of the items of a list. -/
def tokensOfItems : List Json → List (List Token)
  | [] => []
  | v :: items => tokensOf v :: tokensOfItems items

/-- The tokens of the fields of an object. -/
def tokensOfFields : List (String × Json) → List (List Token)
  | [] => []
  | (key, v) :: fields =>
    (.value (.str key) :: .mark ':' :: tokensOf v) :: tokensOfFields fields

end

/-! ## Texts and their tokens -/

namespace Scanner

/-- The scanner after several characters. -/
def run (s : Scanner) (cs : List Char) : Option Scanner :=
  cs.foldlM step s

theorem run_cons {s : Scanner} {c : Char} {cs : List Char} :
    s.run (c :: cs) = (s.step c).bind (run · cs) :=
  List.foldlM_cons

theorem run_append {s : Scanner} {cs ds : List Char} :
    s.run (cs ++ ds) = (s.run cs).bind (run · ds) :=
  List.foldlM_append

/-- The scanner has found these tokens, last first. It may not know yet that the last one
    has ended. -/
def Settled (s : Scanner) (tokens : List Token) : Prop :=
  s = ⟨.between, tokens⟩ ∨
    ∃ chars v ts, s = ⟨.bare chars, ts⟩ ∧ bareValue chars.reverse = some v ∧
      tokens = .value v :: ts

/-- The characters that end a word or number. -/
def isEnd (c : Char) : Bool :=
  c = ',' || c = ']' || c = '}'

theorem Settled.step {s : Scanner} {tokens : List Token} (h : s.Settled tokens) {c : Char}
    (hc : isEnd c) : s.step c = some ⟨.between, .mark c :: tokens⟩ := by
  have hc : c = ',' ∨ c = ']' ∨ c = '}' := by simpa [isEnd, or_assoc] using hc
  have hmark : stepBetween tokens c = some ⟨.between, .mark c :: tokens⟩ := by
    rcases hc with rfl | rfl | rfl <;> rfl
  rcases h with rfl | ⟨chars, v, ts, rfl, hv, rfl⟩
  · exact hmark
  · have hbare : isBare c = false := by
      rcases hc with rfl | rfl | rfl <;> decide
    simp only [Scanner.step, hbare, hv]
    exact hmark

theorem Settled.finish {s : Scanner} {tokens : List Token} (h : s.Settled tokens) :
    s.finish = some tokens.reverse := by
  rcases h with rfl | ⟨chars, v, ts, rfl, hv, rfl⟩
  · rfl
  · simp [Scanner.finish, hv]

end Scanner

/-- The text has these tokens, and the last of them may have to be ended. -/
def Scans (cs : List Char) (tokens : List Token) : Prop :=
  ∀ ts, ∃ s, Scanner.run ⟨.between, ts⟩ cs = some s ∧ s.Settled (tokens.reverse ++ ts)

/-- The text has these tokens, whatever comes after it. -/
def Completes (cs : List Char) (tokens : List Token) : Prop :=
  ∀ ts, Scanner.run ⟨.between, ts⟩ cs = some ⟨.between, tokens.reverse ++ ts⟩

variable {cs ds : List Char} {a b : List Token}

theorem Completes.scans (h : Completes cs a) : Scans cs a :=
  fun ts => ⟨_, h ts, .inl rfl⟩

theorem Completes.append (h : Completes cs a) (h' : Completes ds b) :
    Completes (cs ++ ds) (a ++ b) := by
  intro ts
  rw [Scanner.run_append, h ts, Option.bind_some, h' (a.reverse ++ ts), List.reverse_append,
    List.append_assoc]

theorem Completes.append_scans (h : Completes cs a) (h' : Scans ds b) :
    Scans (cs ++ ds) (a ++ b) := by
  intro ts
  obtain ⟨s, hs, hsettled⟩ := h' (a.reverse ++ ts)
  refine ⟨s, ?_, ?_⟩
  · rw [Scanner.run_append, h ts, Option.bind_some, hs]
  · rw [List.reverse_append, List.append_assoc]
    exact hsettled

/-- A comma or bracket ends what is before it. -/
theorem Scans.append_mark (h : Scans cs a) {c : Char} (hc : Scanner.isEnd c) :
    Completes (cs ++ [c]) (a ++ [.mark c]) := by
  intro ts
  obtain ⟨s, hs, hsettled⟩ := h ts
  rw [Scanner.run_append, hs, Option.bind_some, Scanner.run_cons, hsettled.step hc]
  simp [Scanner.run]

/-- An opening bracket or a colon stands for itself. -/
theorem completes_mark {c : Char} (hc : c ∈ ['[', '{', ':']) : Completes [c] [.mark c] := by
  intro ts
  simp only [List.mem_cons, List.not_mem_nil, or_false] at hc
  rcases hc with rfl | rfl | rfl <;> rfl

/-- Texts with commas between them have their tokens with commas between them. -/
theorem scans_intercalate {texts : List String} {tokens : List (List Token)}
    (h : List.Forall₂ (fun text => Scans text.toList) texts tokens) :
    Scans (",".intercalate texts).toList (separated tokens) := by
  induction h with
  | nil => exact fun ts => ⟨_, rfl, .inl rfl⟩
  | @cons text a texts tokens ha htexts ih =>
    cases htexts with
    | nil => simpa [separated] using ha
    | @cons text' b texts tokens =>
      -- The comma ends what is in hand, and the rest begins between tokens.
      have hcomma : Completes (text.toList ++ [',']) (a ++ [.mark ',']) := ha.append_mark rfl
      have hboth := hcomma.append_scans ih
      simpa [separated, String.intercalate_cons_cons] using hboth

/-! ## Words -/

/-- A word begins with its first character. -/
theorem stepBetween_of_isBare {c : Char} (hc : isBare c = true) {ts : List Token} :
    Scanner.stepBetween ts c = some ⟨.bare [c], ts⟩ := by
  have hne {d : Char} (hd : isBare d = false) : c ≠ d := by
    rintro rfl
    exact absurd (hc.symm.trans hd) (by decide)
  have hblank : ¬ (c = ' ' || c = '\t' || c = '\n' || c = '\r') = true := by
    simp [hne (d := ' ') rfl, hne (d := '\t') rfl, hne (d := '\n') rfl, hne (d := '\r') rfl]
  have hmark : ¬ "[]{},:".toList.contains c = true := by
    simp [hne (d := '[') rfl, hne (d := ']') rfl, hne (d := '{') rfl, hne (d := '}') rfl,
      hne (d := ',') rfl, hne (d := ':') rfl]
  rw [Scanner.stepBetween, if_neg hblank, if_neg (hne rfl), if_neg hmark, if_pos hc]

/-- A word that stands for a value is scanned as this value. -/
theorem scans_bare {v : Json} (hcs : ∀ c ∈ cs, isBare c = true) (hv : bareValue cs = some v) :
    Scans cs [.value v] := by
  intro ts
  -- Inside of the word the scanner gathers its characters.
  have hrun (chars ds : List Char) (hds : ∀ c ∈ ds, isBare c = true) :
      Scanner.run ⟨.bare chars, ts⟩ ds = some ⟨.bare (ds.reverse ++ chars), ts⟩ := by
    induction ds generalizing chars with
    | nil => rfl
    | cons d ds ih =>
      obtain ⟨hd, hds⟩ := List.forall_mem_cons.1 hds
      have hstep : Scanner.step ⟨.bare chars, ts⟩ d = some ⟨.bare (d :: chars), ts⟩ := by
        simp only [Scanner.step, hd, if_true]
      rw [Scanner.run_cons, hstep, Option.bind_some, ih (d :: chars) hds]
      simp
  cases cs with
  | nil => exact nomatch hv
  | cons c cs =>
    obtain ⟨hc, hcs⟩ := List.forall_mem_cons.1 hcs
    have hstep : Scanner.step ⟨.between, ts⟩ c = some ⟨.bare [c], ts⟩ := stepBetween_of_isBare hc
    refine ⟨⟨.bare (c :: cs).reverse, ts⟩, ?_, .inr ⟨_, v, ts, rfl, ?_, rfl⟩⟩
    · rw [Scanner.run_cons, hstep, Option.bind_some, hrun [c] cs hcs, List.reverse_cons]
    · rw [List.reverse_reverse, hv]

/-! ## Quoted texts -/

theorem hexValue?_hexDigit : ∀ n < 16, hexValue? (hexDigit n) = some n := by
  decide

/-- A hexadecimal digit goes on with an escape. -/
theorem step_hex {d : Char} {n : Nat} (hd : hexValue? d = some n) (chars : List Char)
    (left value : Nat) (ts : List Token) :
    Scanner.step ⟨.hex chars none false (left + 2) value, ts⟩ d =
      some ⟨.hex chars none false (left + 1) (16 * value + n), ts⟩ := by
  simp [Scanner.step, hd]

/-- The last digit of an escape gives its character. -/
theorem step_lastHex {d : Char} {n : Nat} (hd : hexValue? d = some n) (chars : List Char)
    (value : Nat) (ts : List Token) : Scanner.step ⟨.hex chars none false 1 value, ts⟩ d =
      some ⟨afterUnit chars none false (16 * value + n), ts⟩ := by
  simp [Scanner.step, hd]

/-- An escape with the digits of a control character is read as this character. -/
theorem run_controlEscape {c : Char} (hc : c < ' ') (chars : List Char) (ts : List Token) :
    Scanner.run ⟨.quoted chars none false, ts⟩
        ['\\', 'u', '0', '0', hexDigit (c.toNat / 16), hexDigit (c.toNat % 16)] =
      some ⟨.quoted (c :: chars) none false, ts⟩ := by
  have hlt : c.toNat < 32 := hc
  have hhigh := hexValue?_hexDigit (c.toNat / 16) (by omega)
  have hlow := hexValue?_hexDigit (c.toNat % 16) (by omega)
  -- A control character is no half of a pair, so its escape stands for itself.
  have hunit : afterUnit chars none false (16 * (c.toNat / 16) + c.toNat % 16) =
      .quoted (c :: chars) none false := by
    rw [Nat.div_add_mod, afterUnit, if_neg (by simp; omega), if_neg (by simp; omega),
      Char.ofNat_toNat]
  have hopen : Scanner.run ⟨.quoted chars none false, ts⟩ ['\\', 'u', '0', '0'] =
      some ⟨.hex chars none false 2 0, ts⟩ := rfl
  rw [show ['\\', 'u', '0', '0', hexDigit (c.toNat / 16), hexDigit (c.toNat % 16)] =
      ['\\', 'u', '0', '0'] ++ [hexDigit (c.toNat / 16), hexDigit (c.toNat % 16)] from rfl,
    Scanner.run_append, hopen, Option.bind_some, Scanner.run_cons, step_hex hhigh,
    Option.bind_some, Scanner.run_cons, step_lastHex hlow, Option.bind_some, Nat.mul_zero,
    Nat.zero_add, hunit]
  rfl

/-- What a character is written as inside quotes is read as this character. -/
theorem run_escapeChar (c : Char) (chars : List Char) (ts : List Token) :
    Scanner.run ⟨.quoted chars none false, ts⟩ (escapeChar c) =
      some ⟨.quoted (c :: chars) none false, ts⟩ := by
  -- Seven characters have escapes of their own.
  by_cases hquote : c = '"'
  · rw [hquote]
    rfl
  by_cases hslash : c = '\\'
  · rw [hslash]
    rfl
  by_cases hb : c = '\x08'
  · rw [hb]
    rfl
  by_cases ht : c = '\t'
  · rw [ht]
    rfl
  by_cases hn : c = '\n'
  · rw [hn]
    rfl
  by_cases hf : c = '\x0c'
  · rw [hf]
    rfl
  by_cases hr : c = '\r'
  · rw [hr]
    rfl
  rw [escapeChar, if_neg hquote, if_neg hslash, if_neg hb, if_neg ht, if_neg hn, if_neg hf,
    if_neg hr]
  split
  · rename_i hc
    exact run_controlEscape hc chars ts
  · rename_i hc
    simp [Scanner.run, Scanner.step, hquote, hslash, hc]

theorem run_escapeChars (cs chars : List Char) (ts : List Token) :
    Scanner.run ⟨.quoted chars none false, ts⟩ (cs.flatMap escapeChar) =
      some ⟨.quoted (cs.reverse ++ chars) none false, ts⟩ := by
  induction cs generalizing chars with
  | nil => rfl
  | cons c cs ih =>
    rw [List.flatMap_cons, Scanner.run_append, run_escapeChar, Option.bind_some, ih]
    simp

/-- A quoted text is scanned as this text. -/
theorem completes_quote (s : String) : Completes (quote s).toList [.value (.str s)] := by
  intro ts
  rw [quote, String.toList_ofList, List.cons_append, Scanner.run_cons]
  have hopen : Scanner.step ⟨.between, ts⟩ '"' = some ⟨.quoted [] none false, ts⟩ := rfl
  have hclose : Scanner.run ⟨.quoted s.toList.reverse none false, ts⟩ ['"'] =
      some ⟨.between, .value (.str s) :: ts⟩ := by
    simp [Scanner.run, Scanner.step]
  rw [hopen, Option.bind_some, Scanner.run_append, run_escapeChars, Option.bind_some,
    List.append_nil, hclose]
  rfl

/-! ## Values -/

mutual

/-- Reading the text of the value gives the value back, part by part: whole numbers fit 64
    bits, and floats are those that their texts are read as. -/
def Lasts : Json → Prop
  | .int n => Int64.minValue.toInt ≤ n ∧ n < UInt64.size
  | .float x => bareValue (printFloat x).toList = some (.float x)
  | .arr items => ItemsLast items
  | .obj fields => FieldsLast fields
  | .void => False
  | _ => True

/-- The items of a list last. -/
def ItemsLast : List Json → Prop
  | [] => True
  | v :: items => Lasts v ∧ ItemsLast items

/-- The fields of an object last. -/
def FieldsLast : List (String × Json) → Prop
  | [] => True
  | (_, v) :: fields => Lasts v ∧ FieldsLast fields

end

mutual

/-- A value that lasts is scanned as its tokens. -/
theorem scans_print : ∀ v, Lasts v → Scans (print v).toList (tokensOf v)
  | .null, _ => scans_bare (List.all_eq_true.1 (by decide)) rfl
  | .bool true, _ => scans_bare (List.all_eq_true.1 (by decide)) rfl
  | .bool false, _ => scans_bare (List.all_eq_true.1 (by decide)) rfl
  | .int n, h => scans_bare (fun c hc => isBare_toString hc) (bareValue_int h.1 h.2)
  | .float x, h => scans_bare (fun c hc => isBare_printFloat hc) h
  | .str s, _ => (completes_quote s).scans
  | .arr items, h => by
    have hinside : Scans (['['] ++ (",".intercalate (printItems items)).toList)
        ([.mark '['] ++ separated (tokensOfItems items)) :=
      (completes_mark (by simp)).append_scans (scans_intercalate (scans_printItems items h))
    have hwhole := (hinside.append_mark (c := ']') rfl).scans
    simpa [print, tokensOf] using hwhole
  | .obj fields, h => by
    have hinside : Scans (['{'] ++ (",".intercalate (printFields fields)).toList)
        ([.mark '{'] ++ separated (tokensOfFields fields)) :=
      (completes_mark (by simp)).append_scans (scans_intercalate (scans_printFields fields h))
    have hwhole := (hinside.append_mark (c := '}') rfl).scans
    simpa [print, tokensOf] using hwhole

/-- Items that last are scanned each as its tokens. -/
theorem scans_printItems : ∀ items, ItemsLast items →
    List.Forall₂ (fun text => Scans text.toList) (printItems items) (tokensOfItems items)
  | [], _ => .nil
  | v :: items, h => .cons (scans_print v h.1) (scans_printItems items h.2)

/-- Fields that last are scanned each as its tokens. -/
theorem scans_printFields : ∀ fields, FieldsLast fields →
    List.Forall₂ (fun text => Scans text.toList) (printFields fields) (tokensOfFields fields)
  | [], _ => .nil
  | (key, v) :: fields, h => by
    have hkey := (completes_quote key).append (completes_mark (c := ':') (by simp))
    have hfield := hkey.append_scans (scans_print v h.1)
    refine .cons ?_ (scans_printFields fields h.2)
    simpa using hfield

end

end HandStudy.Json
