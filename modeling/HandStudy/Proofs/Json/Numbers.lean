import HandStudy.Json.Printer
import HandStudy.Json.Reader
import Mathlib.Data.List.TakeWhile

/-!
# Numbers as text

A whole number of 64 bits is written with its digits and read back from them
(`Json.bareValue_int`). A float is written as one word, whatever it is
(`Json.isBare_printFloat`); which float this word is read as is another matter.
-/

namespace HandStudy.Json

/-! ## Digits -/

theorem all_isDigit_toDigits (n : Nat) : (Nat.toDigits 10 n).all Char.isDigit = true := by
  rw [List.all_eq_true]
  exact fun c hc => Nat.isDigit_of_mem_toDigits (by decide) (by decide) hc

/-- A number has no leading zero, unless it is zero. -/
theorem head?_toDigits_ne {n : Nat} (hn : n ≠ 0) : (Nat.toDigits 10 n).head? ≠ some '0' := by
  induction n using Nat.strongRecOn with
  | ind n ih =>
    rcases Nat.lt_or_ge n 10 with h | h
    · have hdigit : ∀ n < 10, n ≠ 0 → [Nat.digitChar n].head? ≠ some '0' := by decide
      rw [Nat.toDigits_of_lt_base h]
      exact hdigit n h hn
    -- A longer number begins like a tenth of it.
    · rw [Nat.toDigits_of_base_le (by decide) h, List.head?_append]
      have hhead := ih (n / 10) (by omega) (by omega)
      cases hd : Nat.toDigits 10 (n / 10) with
      | nil => exact absurd hd Nat.toDigits_ne_nil
      | cons d ds =>
        rw [hd] at hhead
        simpa using hhead

theorem digitsValue_toDigits (n : Nat) : digitsValue (Nat.toDigits 10 n) = n := by
  have hvalue : digitsValue (Nat.toDigits 10 n) = Nat.ofDigitChars 10 (Nat.toDigits 10 n) 0 := by
    rw [Nat.ofDigitChars_eq_foldl]
    rfl
  rw [hvalue, Nat.ofDigitChars_ten_toDigits]

theorem spanDigits_of_all {cs : List Char} (h : cs.all Char.isDigit = true) :
    spanDigits cs = (cs, []) := by
  rw [List.all_eq_true] at h
  rw [spanDigits, List.takeWhile_eq_self_iff.2 h, List.dropWhile_eq_nil_iff.2 h]

/-- The digits of a number are the text of a number, also with a sign before them. -/
theorem ofChars?_digits (negative : Bool) (n : Nat) :
    NumberText.ofChars? ((if negative then ['-'] else []) ++ Nat.toDigits 10 n) =
      some ⟨negative, Nat.toDigits 10 n, none, none⟩ := by
  have hne : Nat.toDigits 10 n ≠ [] := Nat.toDigits_ne_nil
  have hzero : ¬ ((Nat.toDigits 10 n).head? = some '0' ∧ (Nat.toDigits 10 n).length ≠ 1) := by
    rintro ⟨hhead, hlength⟩
    rcases Nat.eq_zero_or_pos n with rfl | hn
    · exact hlength rfl
    · exact head?_toDigits_ne (by omega) hhead
  have hsplit : splitSign ((if negative then ['-'] else []) ++ Nat.toDigits 10 n) =
      (negative, Nat.toDigits 10 n) := by
    cases negative with
    | true => rfl
    | false =>
      have hdigit := all_isDigit_toDigits n
      simp only [Bool.false_eq_true, if_false, List.nil_append]
      unfold splitSign
      split
      · simp [*] at hdigit
      · rfl
  unfold NumberText.ofChars?
  simp only [hsplit, spanDigits_of_all (all_isDigit_toDigits n)]
  rw [if_neg (by simpa [hne] using hzero)]
  rfl

theorem toList_toString (n : Int) :
    (toString n).toList = (if decide (n < 0) then ['-'] else []) ++ Nat.toDigits 10 n.natAbs := by
  cases n with
  | ofNat m =>
    have hsign : ¬ (Int.ofNat m < 0) := by simp
    rw [decide_eq_false hsign]
    exact Nat.toList_repr
  | negSucc m =>
    have htext : toString (Int.negSucc m) = "-" ++ (m + 1).repr := rfl
    rw [htext, String.toList_append, Nat.toList_repr, decide_eq_true (Int.negSucc_lt_zero m)]
    rfl

/-- Whole numbers of 64 bits are read from their digits. -/
theorem bareValue_int {n : Int} (hlow : Int64.minValue.toInt ≤ n) (hhigh : n < UInt64.size) :
    bareValue (toString n).toList = some (.int n) := by
  -- The text has digits and a sign only, so it is none of the three words.
  have hword {w : List Char} {c : Char} (hc : c ∈ w) (hdigit : c.isDigit = false)
      (hsign : c ≠ '-') : (toString n).toList ≠ w := by
    rintro rfl
    rw [toList_toString, List.mem_append] at hc
    rcases hc with hc | hc
    · split at hc
      · exact hsign (List.mem_singleton.1 hc)
      · cases hc
    · have hall := List.all_eq_true.1 (all_isDigit_toDigits n.natAbs) c hc
      exact absurd (hall.symm.trans hdigit) (by decide)
  have hnull := hword (w := "null".toList) (c := 'n') (by decide) (by decide) (by decide)
  have htrue := hword (w := "true".toList) (c := 't') (by decide) (by decide) (by decide)
  have hfalse := hword (w := "false".toList) (c := 'f') (by decide) (by decide) (by decide)
  rw [bareValue, if_neg hnull, if_neg htrue, if_neg hfalse, toList_toString, ofChars?_digits,
    Option.map_some, NumberText.value]
  simp only [digitsValue_toDigits, Option.isNone_none, Bool.and_self, Bool.true_and]
  by_cases hn : n < 0
  · have hpos : (0 : Int) < n.natAbs := by omega
    have hneg : -(n.natAbs : Int) = n := by omega
    simp only [hn, hpos, hneg, hlow, decide_true, Bool.not_true, Bool.false_and, Bool.and_self,
      Bool.false_eq_true, if_false, if_true]
  · have habs : (n.natAbs : Int) = n := by omega
    simp only [hn, habs, hhigh, decide_true, decide_false, Bool.not_false, Bool.and_self, if_true]

/-! ## Bare words -/

theorem isBare_of_isDigit {c : Char} (h : c.isDigit = true) : isBare c = true := by
  simp [isBare, Char.isAlphanum, h]

theorem isBare_toDigits {n : Nat} {c : Char} (hc : c ∈ Nat.toDigits 10 n) : isBare c = true :=
  isBare_of_isDigit (List.all_eq_true.1 (all_isDigit_toDigits n) c hc)

/-- Whole numbers are written as one word. -/
theorem isBare_toString {n : Int} {c : Char} (hc : c ∈ (toString n).toList) : isBare c = true := by
  rw [toList_toString, List.mem_append] at hc
  rcases hc with hc | hc
  · split at hc
    · rw [List.mem_singleton.1 hc]
      decide
    · cases hc
  · exact isBare_toDigits hc

/-- Digits with a point are one word. -/
theorem isBare_positionalText {digits : List Char} (hdigits : ∀ c ∈ digits, isBare c = true)
    {point : Int} {c : Char} (hc : c ∈ Decimal.positionalText digits point) : isBare c = true := by
  have hzeros {n : Nat} (hc : c ∈ List.replicate n '0') : isBare c = true := by
    rw [List.eq_of_mem_replicate hc]
    decide
  have hpoint : ∀ d ∈ ['0', '.'], isBare d = true := List.all_eq_true.1 (by decide)
  unfold Decimal.positionalText at hc
  simp only at hc
  split at hc
  · simp only [List.mem_append] at hc
    rcases hc with (hc | hc) | hc
    · exact hpoint c hc
    · exact hzeros hc
    · exact hdigits c hc
  · split at hc
    · simp only [List.mem_append] at hc
      rcases hc with (hc | hc) | hc
      · exact hdigits c hc
      · exact hzeros hc
      · exact hpoint c (by simpa [or_comm] using hc)
    · rw [List.mem_append, List.mem_cons] at hc
      rcases hc with hc | rfl | hc
      · exact hdigits c (List.mem_of_mem_take hc)
      · decide
      · exact hdigits c (List.mem_of_mem_drop hc)

/-- Digits with an exponent are one word. -/
theorem isBare_exponentText {digits : List Char} (hdigits : ∀ c ∈ digits, isBare c = true)
    {point : Int} {c : Char} (hc : c ∈ Decimal.exponentText digits point) : isBare c = true := by
  unfold Decimal.exponentText at hc
  simp only [List.mem_append, List.mem_cons] at hc
  rcases hc with hc | rfl | hc
  · split at hc
    · rename_i first second rest
      rcases List.mem_cons.1 hc with rfl | hc
      · exact hdigits c List.mem_cons_self
      · rcases List.mem_cons.1 hc with rfl | hc
        · decide
        · exact hdigits c (List.mem_cons_of_mem _ hc)
    · exact hdigits c hc
  · decide
  · exact isBare_toString hc

/-- Floats are written as one word. -/
theorem isBare_printFloat {x : Float} {c : Char} (hc : c ∈ (printFloat x).toList) :
    isBare c = true := by
  rw [printFloat] at hc
  split at hc
  · rw [Decimal.text] at hc
    generalize Decimal.shortest x = shortest at hc
    obtain ⟨n, k⟩ := shortest
    have hdigits : ∀ c ∈ Nat.toDigits 10 n, isBare c = true := fun c hc => isBare_toDigits hc
    rw [String.toList_append, List.mem_append, String.toList_ofList] at hc
    rcases hc with hc | hc
    · split at hc
      · rw [List.mem_singleton.1 hc]
        decide
      · cases hc
    · generalize (if n = 0 then 1 else ((Nat.toDigits 10 n).length : Int) + k) = point at hc
      split at hc
      · exact isBare_positionalText hdigits hc
      · exact isBare_exponentText hdigits hc
  · exact List.all_eq_true.1 (by decide) c hc

end HandStudy.Json
