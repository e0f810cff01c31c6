import HandStudy.Text.Letters
import Mathlib.Data.List.Infix

/-!
# Keywords in lower case

Free text is put in lower case only as far as ASCII goes (`Text.lower`). That is enough to look for
ASCII keywords in it: in the lower case that Unicode has for a text (`Text.IsLower`) the same keywords
are found, whatever becomes of the characters beyond ASCII (`Text.infix_lower_iff`). All that is used
of them is that none but two have ASCII characters in their lower case.
-/

namespace HandStudy.Text

/-! ## Looking for keywords -/

theorem mentions_iff {keyword text : List Char} : mentions keyword text ↔ keyword <:+: text := by
  induction text with
  | nil => rw [mentions, List.isEmpty_iff, List.infix_nil]
  | cons c cs ih =>
    rw [mentions, Bool.or_eq_true, List.isPrefixOf_iff_prefix, ih, List.infix_cons_iff]

/-! ## Characters beyond ASCII -/

/-- There are nothing but ASCII characters. -/
def IsAscii (cs : List Char) : Prop :=
  ∀ c ∈ cs, c.toNat < 128

instance decidableIsAscii (cs : List Char) : Decidable (IsAscii cs) :=
  List.decidableBAll (fun c : Char => c.toNat < 128) cs

/-- There are characters, but none of ASCII. -/
structure Foreign (cs : List Char) : Prop where
  ne_nil : cs ≠ []
  beyond : ∀ c ∈ cs, 128 ≤ c.toNat

/-- Two texts are the same but for runs of characters beyond ASCII. -/
inductive SameAscii : List Char → List Char → Prop
  | nil : SameAscii [] []
  | cons {s t : List Char} (c : Char) : SameAscii s t → SameAscii (c :: s) (c :: t)
  | foreign {s t u v : List Char} : Foreign u → Foreign v → SameAscii s t →
      SameAscii (u ++ s) (v ++ t)

section Keyword

variable {keyword s t : List Char}

/-- A keyword that begins before foreign characters ends before them. -/
theorem Foreign.prefix_append_iff {u : List Char} (hu : Foreign u) (hk : IsAscii keyword) :
    keyword <+: u ++ s ↔ keyword = [] := by
  refine ⟨fun h => ?_, fun h => h ▸ List.nil_prefix⟩
  rcases keyword with _ | ⟨d, keyword⟩
  · rfl
  · rcases u with _ | ⟨c, u⟩
    · exact absurd rfl hu.ne_nil
    · -- The first characters would have to be the same.
      obtain ⟨rfl, -⟩ := List.cons_prefix_cons.1 h
      exact absurd (hk d List.mem_cons_self) (Nat.not_lt.2 (hu.beyond d List.mem_cons_self))

theorem infix_append_of_beyond {u : List Char} (hu : ∀ c ∈ u, 128 ≤ c.toNat)
    (hk : IsAscii keyword) : keyword <:+: u ++ s ↔ keyword <:+: s := by
  induction u with
  | nil => rfl
  | cons c u ih =>
    have hforeign : Foreign (c :: u) := ⟨List.cons_ne_nil c u, hu⟩
    rw [List.cons_append, List.infix_cons_iff, ← List.cons_append, hforeign.prefix_append_iff hk,
      ih fun d hd => hu d (List.mem_cons_of_mem c hd)]
    exact or_iff_right_of_imp fun h => h ▸ List.nil_infix

theorem SameAscii.prefix_iff (h : SameAscii s t) (hk : IsAscii keyword) :
    keyword <+: s ↔ keyword <+: t := by
  induction h generalizing keyword with
  | nil => rfl
  | cons c _ ih =>
    rcases keyword with _ | ⟨d, keyword⟩
    · simp
    · rw [List.cons_prefix_cons, List.cons_prefix_cons,
        ih fun e he => hk e (List.mem_cons_of_mem d he)]
  | foreign hu hv _ _ => rw [hu.prefix_append_iff hk, hv.prefix_append_iff hk]

/-- An ASCII keyword is in both texts or in neither. -/
theorem SameAscii.infix_iff (h : SameAscii s t) (hk : IsAscii keyword) :
    keyword <:+: s ↔ keyword <:+: t := by
  induction h with
  | nil => rfl
  | cons c h ih =>
    rw [List.infix_cons_iff, List.infix_cons_iff, ih, (SameAscii.cons c h).prefix_iff hk]
  | foreign hu hv _ ih =>
    rw [infix_append_of_beyond hu.beyond hk, infix_append_of_beyond hv.beyond hk, ih]

end Keyword

/-! ## Lower case -/

/-- The one text is the lower case of the other. An ASCII character becomes one of ASCII, the Kelvin
    sign a k and the dotted capital I an i with a dot. Any other character becomes characters beyond
    ASCII; it is left open which, as that may depend on where it stands. -/
inductive IsLower : List Char → List Char → Prop
  | nil : IsLower [] []
  | ascii {c : Char} {cs t : List Char} : c.toNat < 128 → IsLower cs t →
      IsLower (c :: cs) (c.toLower :: t)
  | kelvin {cs t : List Char} : IsLower cs t → IsLower ('\u212a' :: cs) ('k' :: t)
  | dottedI {cs t : List Char} : IsLower cs t → IsLower ('\u0130' :: cs) ('i' :: '\u0307' :: t)
  | other {c : Char} {cs t piece : List Char} : 128 ≤ c.toNat → c ≠ '\u212a' → c ≠ '\u0130' →
      Foreign piece → IsLower cs t → IsLower (c :: cs) (piece ++ t)

theorem lowerChar_of_ascii {c : Char} (hc : c.toNat < 128) : lowerChar c = [c.toLower] := by
  have hkelvin : c ≠ '\u212a' := by
    rintro rfl
    exact absurd hc (by decide)
  have hdotted : c ≠ '\u0130' := by
    rintro rfl
    exact absurd hc (by decide)
  rw [lowerChar, if_neg hkelvin, if_neg hdotted]

theorem lowerChar_of_other {c : Char} (hc : 128 ≤ c.toNat) (hkelvin : c ≠ '\u212a')
    (hdotted : c ≠ '\u0130') : lowerChar c = [c] := by
  have hcapital : ¬ (c.val ≥ 'A'.val ∧ c.val ≤ 'Z'.val) := fun h =>
    absurd (Nat.le_trans hc (UInt32.le_iff_toNat_le.1 h.2)) (by decide)
  have hkept : c.toLower = c := dif_neg hcapital
  rw [lowerChar, if_neg hkelvin, if_neg hdotted, hkept]

theorem foreign_singleton {c : Char} (hc : 128 ≤ c.toNat) : Foreign [c] :=
  ⟨List.cons_ne_nil c [], List.forall_mem_singleton.2 hc⟩

theorem isLower_flatMap_lowerChar (cs : List Char) : IsLower cs (cs.flatMap lowerChar) := by
  induction cs with
  | nil => exact .nil
  | cons c cs ih =>
    rw [List.flatMap_cons]
    by_cases hc : c.toNat < 128
    · rw [lowerChar_of_ascii hc]
      exact .ascii hc ih
    by_cases hkelvin : c = '\u212a'
    · subst hkelvin
      exact .kelvin ih
    by_cases hdotted : c = '\u0130'
    · subst hdotted
      exact .dottedI ih
    rw [lowerChar_of_other (Nat.not_lt.1 hc) hkelvin hdotted]
    exact .other (Nat.not_lt.1 hc) hkelvin hdotted (foreign_singleton (Nat.not_lt.1 hc)) ih

/-- Every text has a lower case. -/
theorem isLower_lower (s : String) : IsLower s.toList (lower s) :=
  isLower_flatMap_lowerChar s.toList

theorem IsLower.sameAscii {cs t : List Char} (h : IsLower cs t) :
    SameAscii (cs.flatMap lowerChar) t := by
  induction h with
  | nil => exact .nil
  | ascii hc _ ih =>
    rw [List.flatMap_cons, lowerChar_of_ascii hc]
    exact .cons _ ih
  | kelvin _ ih => exact .cons 'k' ih
  | dottedI _ ih => exact .cons 'i' (.cons '\u0307' ih)
  | other hc hkelvin hdotted hpiece _ ih =>
    rw [List.flatMap_cons, lowerChar_of_other hc hkelvin hdotted]
    exact .foreign (foreign_singleton hc) hpiece ih

theorem infix_lower_iff {s : String} {t keyword : List Char} (h : IsLower s.toList t)
    (hk : IsAscii keyword) : keyword <:+: lower s ↔ keyword <:+: t :=
  h.sameAscii.infix_iff hk

end HandStudy.Text
