import HandStudy.Text.Letters
import Mathlib.Data.List.TakeWhile
import Mathlib.Data.String.Basic

/-!
# Texts as keys

A store that does not regard the case of letters compares texts by their keys (`Text.sameKey`). Texts
that differ in the case of ASCII letters only have the same key (`sameKey_of_sameLetters`), and the
converse holds if one of them is without a zero character (`sameKey_eq_sameLetters`): what stands
before the first such character is then as long as the whole text. Of two texts with zero characters
what follows them is not compared (`ByLetters`).
-/

namespace HandStudy.Text

variable {s t : String}

/-! ## Sizes -/

/-- A character is its own lower case, unless it is one of the capital letters. -/
theorem toLower_cases (c : Char) :
    c.toLower = c ∨ 65 ≤ c.toNat ∧ c.toNat ≤ 90 ∧ c.toLower.toNat = c.toNat + 32 := by
  by_cases h : c.val ≥ 'A'.val ∧ c.val ≤ 'Z'.val
  · have hfirst : 65 ≤ c.val.toNat := UInt32.le_iff_toNat_le.1 h.1
    have hlast : c.val.toNat ≤ 90 := UInt32.le_iff_toNat_le.1 h.2
    have hlower : c.toLower.val = c.val + ('a'.val - 'A'.val) := congrArg Char.val (dif_pos h)
    refine .inr ⟨hfirst, hlast, ?_⟩
    rw [Char.toNat, hlower, UInt32.toNat_add]
    exact Nat.mod_eq_of_lt (Nat.add_lt_of_lt_sub (Nat.lt_of_le_of_lt hlast (by decide)))
  · exact .inl (dif_neg h)

/-- A capital letter and its lower case are one byte each. -/
theorem utf8Size_toLower (c : Char) : c.toLower.utf8Size = c.utf8Size := by
  obtain hkept | ⟨hfirst, hlast, hlower⟩ := toLower_cases c
  · rw [hkept]
  · have hsmall (d : Char) (hd : d.toNat ≤ 127) : d.utf8Size = 1 :=
      if_pos (UInt32.le_iff_toNat_le.2 (show d.val.toNat ≤ 127 from hd))
    rw [hsmall c (by omega), hsmall c.toLower (by omega)]

theorem utf8Len_map_toLower (cs : List Char) :
    String.utf8Len (cs.map Char.toLower) = String.utf8Len cs := by
  induction cs with
  | nil => rfl
  | cons c cs ih => simp [String.utf8Len, ih, utf8Size_toLower]

theorem utf8ByteSize_eq (s : String) : s.utf8ByteSize = String.utf8Len s.toList := by
  rw [← String.utf8ByteSize_ofList, String.ofList_toList]

/-! ## Keys and letters -/

/-- No other character has zero as its lower case. -/
theorem toLower_eq_zero_iff {c : Char} : c.toLower = '\x00' ↔ c = '\x00' := by
  obtain hkept | ⟨hfirst, -, hlower⟩ := toLower_cases c
  · rw [hkept]
  · have hzero : '\x00'.toNat = 0 := rfl
    refine iff_of_false (fun h => ?_) (fun h => ?_)
    · rw [h, hzero] at hlower
      omega
    · rw [h, hzero] at hfirst
      omega

theorem map_toLower_takeWhile (cs : List Char) :
    (cs.takeWhile (· ≠ '\x00')).map Char.toLower =
      (cs.map Char.toLower).takeWhile (· ≠ '\x00') := by
  rw [List.takeWhile_map]
  simp only [Function.comp_def, ne_eq, toLower_eq_zero_iff]

theorem sameKey_of_sameLetters (h : sameLetters s t) : sameKey s t := by
  rw [sameLetters_iff] at h
  rw [sameKey_iff, key, key, map_toLower_takeWhile, map_toLower_takeWhile, utf8ByteSize_eq,
    utf8ByteSize_eq, ← utf8Len_map_toLower s.toList, ← utf8Len_map_toLower t.toList, h]

/-- A name without a zero character is the same to a store as to anyone else. -/
theorem sameKey_eq_sameLetters (ht : '\x00' ∉ t.toList) : sameKey s t = sameLetters s t := by
  rw [Bool.eq_iff_iff]
  refine ⟨fun h => ?_, sameKey_of_sameLetters⟩
  have hwhole : t.toList.takeWhile (· ≠ '\x00') = t.toList :=
    List.takeWhile_eq_self_iff.2 fun c hc => decide_eq_true fun hzero => ht (hzero ▸ hc)
  rw [sameKey_iff, key, key, hwhole, Prod.mk.injEq] at h
  obtain ⟨hsize, hletters⟩ := h
  -- What stands before a zero character has the size of the whole text, so that nothing follows.
  have hbefore := List.takeWhile_append_dropWhile (p := (· ≠ '\x00')) (l := s.toList)
  have hlen := congrArg String.utf8Len hletters
  rw [utf8Len_map_toLower, utf8Len_map_toLower] at hlen
  have hrest : s.toList.dropWhile (· ≠ '\x00') = [] := by
    refine String.utf8Len_eq_zero.1 ?_
    have hsum := congrArg String.utf8Len hbefore
    rw [String.utf8Len_append] at hsum
    rw [utf8ByteSize_eq, utf8ByteSize_eq] at hsize
    omega
  rw [hrest, List.append_nil] at hbefore
  rw [sameLetters_iff, ← hletters, hbefore]

/-- The text is the same to a store as others if it is so by its letters. -/
def ByLetters (n : String) : Prop :=
  ∀ m, sameKey m n = sameLetters m n

theorem byLetters_of_no_zero {n : String} (hn : '\x00' ∉ n.toList) : ByLetters n :=
  fun _ => sameKey_eq_sameLetters hn

end HandStudy.Text
