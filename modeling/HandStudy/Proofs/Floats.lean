import HandStudy.Json.Reader
import Mathlib

/-!
# Floats

A float is compared and computed with in its parts, sign, mantissa and exponent. The sign of a
zero does not show in comparisons (`Floats.le_congr_of_beq_zero`). What is no number does not
come of products and quotients of numbers with floats that are finite and not zero
(`Floats.isNaN_mul_div`), such as the powers of ten up to the 308th are
(`Floats.isProper_power`): their first 53 bits are a mantissa, and the exponent is in bounds.
-/

namespace HandStudy.Floats

open Float.Model (UnpackedFloat Format)
open Float.Model.UnpackedFloat (Sign Accuracy ExtendedMantissa packComponents)

/-! ## Zeros -/

theorem le_iff_unpack {x y : Float} :
    x ≤ y ↔ x.toModel.unpack.le y.toModel.unpack = true :=
  decide_eq_true_iff

theorem exists_unpack_eq_zero {x : Float} (h : x == 0.0) :
    ∃ s, x.toModel.unpack = .zero s := by
  have hbeq : x.toModel.unpack.beq (.zero .positive) = true := h
  cases hx : x.toModel.unpack with
  | zero s => exact ⟨s, rfl⟩
  | notANumber =>
    rw [hx] at hbeq
    cases hbeq
  | infinity s | finite s =>
    rw [hx] at hbeq
    cases s <;> cases hbeq

/-- The sign of a zero does not show in comparisons. -/
theorem compare_zero (s t : Sign) (a : UnpackedFloat) :
    (UnpackedFloat.zero s).compare a = (UnpackedFloat.zero t).compare a ∧
      a.compare (.zero s) = a.compare (.zero t) := by
  cases a with
  | zero | notANumber => exact ⟨rfl, rfl⟩
  | infinity u | finite u => cases u <;> exact ⟨rfl, rfl⟩

/-- What equals zero is on the same side of every number. -/
theorem le_congr_of_beq_zero {x : Float} (h : x == 0.0) (y : Float) :
    ((0.0 : Float) ≤ y ↔ x ≤ y) ∧ (y ≤ 0.0 ↔ y ≤ x) := by
  obtain ⟨s, hs⟩ := exists_unpack_eq_zero h
  obtain ⟨hleft, hright⟩ := compare_zero .positive s y.toModel.unpack
  rw [le_iff_unpack, le_iff_unpack, le_iff_unpack, le_iff_unpack, UnpackedFloat.le,
    UnpackedFloat.le, UnpackedFloat.le, UnpackedFloat.le, hs, ← hleft, ← hright]
  exact ⟨.rfl, .rfl⟩

/-! ## What is no number -/

theorem isNaN_eq_false_iff {x : Float} : x.isNaN = false ↔ x.toModel.unpack ≠ .notANumber := by
  have hunpack : x.isNaN = x.toModel.unpack.isNaN := rfl
  rw [hunpack]
  cases x.toModel.unpack with
  | notANumber => exact ⟨nofun, fun h => absurd rfl h⟩
  | infinity | zero | finite => exact ⟨fun _ => nofun, fun _ => rfl⟩

/-- What is no number is on no side of anything. -/
theorem isNaN_eq_false_of_le {x y : Float} (h : x ≤ y) : x.isNaN = false ∧ y.isNaN = false := by
  rw [le_iff_unpack] at h
  rw [isNaN_eq_false_iff, isNaN_eq_false_iff]
  refine ⟨fun hx => ?_, fun hy => ?_⟩
  · rw [hx] at h
    cases h
  · rw [hy] at h
    cases hx : x.toModel.unpack <;> rw [hx] at h <;> cases h

/-- The bits of what is no number have the last of all exponents, and some mantissa. -/
theorem unpack_packComponents_ne {spec : Format} {s : Sign} {e : BitVec spec.exponentBits}
    {m : BitVec spec.mantissaBitsWithoutImplicit} (h : e ≠ -1#_ ∨ m = 0#_) :
    UnpackedFloat.unpack spec (packComponents spec s e m) ≠ .notANumber := by
  rw [UnpackedFloat.unpack]
  simp only [UnpackedFloat.unpackExponent_packComponents,
    UnpackedFloat.unpackMantissa_packComponents]
  split
  · rename_i he
    rw [if_pos (h.resolve_left (absurd he))]
    exact nofun
  split
  · split <;> exact nofun
  · exact nofun

/-- The exponent of a float, as its bits say it, is none but its own. -/
theorem exponent_ne {exponent n : Nat} (hexponent : exponent < 2048) (hn : n < 2048)
    (hne : exponent ≠ n) : BitVec.ofNat 11 exponent ≠ BitVec.ofNat 11 n := by
  intro h
  have hmod : exponent % 2048 = n % 2048 := congrArg BitVec.toNat h
  omega

/-- Nothing but what is no number is packed as such. -/
theorem unpack_pack_ne {u : UnpackedFloat} (h : u ≠ .notANumber) :
    (Float.Model.pack u).unpack ≠ .notANumber := by
  change UnpackedFloat.unpack .binary64 (UnpackedFloat.pack .binary64 u) ≠ .notANumber
  cases u with
  | notANumber => exact absurd rfl h
  | infinity s => exact unpack_packComponents_ne (.inr rfl)
  | zero s => exact unpack_packComponents_ne (.inr rfl)
  | finite s m e hm =>
    rw [UnpackedFloat.pack]
    generalize (e + Format.binary64.exponentBias +
      Format.binary64.mantissaBitsWithoutImplicit).toNat = exponent
    split
    · exact unpack_packComponents_ne (.inr rfl)
    split
    · rename_i hsmall _
      have hsmall : ¬ 2048 ≤ exponent + 1 := hsmall
      exact unpack_packComponents_ne
        (.inl (exponent_ne (n := 2047) (by omega) (by omega) (by omega)))
    · exact unpack_packComponents_ne (.inl (by decide))

theorem roundWithAccuracy_ne (spec : Format) (s : Sign) (m : Nat) (e : Int) (a : Accuracy) :
    UnpackedFloat.roundWithAccuracy spec s m e a ≠ .notANumber := by
  rw [UnpackedFloat.roundWithAccuracy]
  split
  extract_lets
  split
  extract_lets
  split <;> exact nofun

theorem isNaN_toFloat (n : UInt64) : n.toFloat.isNaN = false := by
  rw [isNaN_eq_false_iff]
  refine unpack_pack_ne ?_
  rw [UnpackedFloat.ofUInt64, UnpackedFloat.ofNat, UnpackedFloat.ofInt, UnpackedFloat.normalize]
  split
  · exact roundWithAccuracy_ne _ _ _ _ _
  · exact nofun
  · exact roundWithAccuracy_ne _ _ _ _ _

theorem isNaN_neg {x : Float} (hx : x.isNaN = false) : (-x).isNaN = false := by
  rw [isNaN_eq_false_iff] at hx ⊢
  refine unpack_pack_ne ?_
  cases hu : x.toModel.unpack with
  | notANumber => exact absurd hu hx
  | infinity | zero | finite => exact nofun

/-- The float is finite and not zero. -/
def IsProper (u : UnpackedFloat) : Prop :=
  ∃ s m e hm, u = .finite s m e hm

instance decidableIsProper : (u : UnpackedFloat) → Decidable (IsProper u)
  | .finite s m e hm => .isTrue ⟨s, m, e, hm, rfl⟩
  | .infinity _ | .notANumber | .zero _ => .isFalse fun ⟨_, _, _, _, h⟩ => nomatch h

/-- A number multiplied with or divided by one that is finite and not zero is a number. -/
theorem isNaN_mul_div {x y : Float} (hx : x.isNaN = false) (hy : IsProper y.toModel.unpack) :
    (x * y).isNaN = false ∧ (x / y).isNaN = false := by
  rw [isNaN_eq_false_iff] at hx
  obtain ⟨s, m, e, hm, hy⟩ := hy
  have hresult : UnpackedFloat.mul .binary64 x.toModel.unpack y.toModel.unpack ≠ .notANumber ∧
      UnpackedFloat.div .binary64 x.toModel.unpack y.toModel.unpack ≠ .notANumber := by
    rw [hy]
    cases hu : x.toModel.unpack with
    | notANumber => exact absurd hu hx
    | infinity | zero => exact ⟨nofun, nofun⟩
    | finite => exact ⟨roundWithAccuracy_ne _ _ _ _ _, roundWithAccuracy_ne _ _ _ _ _⟩
  rw [isNaN_eq_false_iff, isNaN_eq_false_iff]
  exact ⟨unpack_pack_ne hresult.1, unpack_pack_ne hresult.2⟩

/-! ## Rounding -/

/-- With a mantissa of 53 bits and an exponent in bounds a float is packed as what it is. -/
theorem isProper_pack {s : Sign} {m : Nat} {e : Int} {hm : 0 < m} (hbits : m.log2 = 52)
    (hlow : -1074 ≤ e) (hhigh : e ≤ 971) :
    IsProper (Float.Model.pack (.finite s m e hm)).unpack := by
  change IsProper
    (UnpackedFloat.unpack .binary64 (UnpackedFloat.pack .binary64 (.finite s m e hm)))
  have hbias : (e + Format.binary64.exponentBias +
      Format.binary64.mantissaBitsWithoutImplicit).toNat = (e + 1075).toNat := by
    change (e + 1023 + 52).toNat = (e + 1075).toNat
    omega
  rw [UnpackedFloat.pack, hbias]
  generalize hexponent : (e + 1075).toNat = exponent
  have hfinite : ¬ 2 ^ Format.binary64.exponentBits ≤ exponent + 1 := by
    change ¬ 2048 ≤ exponent + 1
    omega
  have hnormal : m.log2 + 1 = Format.binary64.mantissaBits := congrArg (· + 1) hbits
  have hlast : BitVec.ofNat Format.binary64.exponentBits exponent ≠ -1#_ :=
    exponent_ne (n := 2047) (by omega) (by omega) (by omega)
  have hfirst : BitVec.ofNat Format.binary64.exponentBits exponent ≠ 0#_ :=
    exponent_ne (n := 0) (by omega) (by omega) (by omega)
  rw [if_neg hfinite, if_pos hnormal, UnpackedFloat.unpack]
  simp only [UnpackedFloat.unpackExponent_packComponents]
  rw [if_neg hlast, if_neg hfirst]
  exact ⟨_, _, _, _, rfl⟩

theorem mantissa_shiftRight (em : ExtendedMantissa) (k : Nat) :
    (em >>> k).mantissa = em.mantissa / 2 ^ k := by
  change (k.repeat ExtendedMantissa.shiftRightOne em).mantissa = em.mantissa / 2 ^ k
  induction k with
  | zero => exact (Nat.div_one _).symm
  | succ k ih =>
    have hhalf : (Nat.repeat ExtendedMantissa.shiftRightOne (k + 1) em).mantissa =
        (Nat.repeat ExtendedMantissa.shiftRightOne k em).mantissa / 2 := rfl
    rw [hhalf, ih, Nat.div_div_eq_div_mul, Nat.pow_succ]

/-- Of a mantissa of more than 53 bits the first 53 are left. -/
theorem exists_shiftToTargetExponent {m : Nat} {e : Int} (hm : 52 ≤ m.log2) (he : -1074 ≤ e) :
    ∃ em, UnpackedFloat.shiftToTargetExponent .binary64 m e .exact =
        (em, e + (m.log2 - 52 : Nat)) ∧ em.mantissa.log2 = 52 := by
  have hlost : (Format.binary64.targetExponent (Float.Model.totalExponent m e) - e).toNat =
      m.log2 - 52 := by
    change (max (m.log2 + 1 + e - 53) (-1074) - e).toNat = m.log2 - 52
    omega
  rw [UnpackedFloat.shiftToTargetExponent, UnpackedFloat.shiftToExponent, hlost]
  refine ⟨_, rfl, ?_⟩
  rw [mantissa_shiftRight]
  change (m / 2 ^ (m.log2 - 52)).log2 = 52
  rw [Nat.log2_eq_log_two, Nat.log_div_base_pow, ← Nat.log2_eq_log_two]
  omega

/-- A mantissa is rounded down, or up to the next one. -/
theorem roundedMantissa_eq (em : ExtendedMantissa) :
    em.roundedMantissa = em.mantissa ∨ em.roundedMantissa = em.mantissa + 1 := by
  rw [ExtendedMantissa.roundedMantissa]
  cases em.accuracy with
  | exact => exact .inl rfl
  | inexact o =>
    cases o with
    | lt => exact .inl rfl
    | eq => exact (Nat.mod_two_eq_zero_or_one em.mantissa).imp (congrArg _) (congrArg _)
    | gt => exact .inr rfl

/-- A mantissa of 53 bits is rounded to one of 53 or 54 bits. -/
theorem log2_roundedMantissa {em : ExtendedMantissa} (h : em.mantissa.log2 = 52) :
    em.roundedMantissa.log2 = 52 ∨ em.roundedMantissa.log2 = 53 := by
  have hne : em.mantissa ≠ 0 := fun h0 => by simp [h0] at h
  obtain ⟨hlow, hhigh⟩ := (Nat.log2_eq_iff hne).1 h
  rcases roundedMantissa_eq em with hdown | hup
  · exact .inl (hdown ▸ h)
  rw [hup]
  by_cases hlast : em.mantissa + 1 = 2 ^ 53
  · exact .inr (hlast ▸ Nat.log2_two_pow)
  · refine .inl ((Nat.log2_eq_iff (Nat.succ_ne_zero _)).2 ⟨?_, ?_⟩) <;> omega

/-- What has more than 53 bits, and is not too large, is rounded to what is finite and not
    zero. -/
theorem isProper_round {s : Sign} {m : Nat} {e : Int} (hm : 52 ≤ m.log2) (hlow : -1074 ≤ e)
    (hhigh : m.log2 + e ≤ 1022) :
    IsProper (Float.Model.pack
      (UnpackedFloat.roundWithAccuracy .binary64 s m e .exact)).unpack := by
  obtain ⟨em, hshift, hbits⟩ := exists_shiftToTargetExponent hm hlow
  have hrounded := log2_roundedMantissa hbits
  obtain ⟨em', hshift', hbits'⟩ :=
    exists_shiftToTargetExponent (m := em.roundedMantissa) (e := e + (m.log2 - 52 : Nat))
      (by omega) (by omega)
  have hne : em'.mantissa ≠ 0 := fun h0 => by simp [h0] at hbits'
  rw [UnpackedFloat.roundWithAccuracy, hshift]
  simp only [hshift', hne, dite_false]
  exact isProper_pack hbits' (by omega) (by omega)

/-- A power of ten that has no float of its own is rounded to 53 bits. -/
theorem unpack_power {n : Nat} (hlow : 22 < n) (hhigh : n < 2048) :
    (Float.ofScientific 1 false n).toModel.unpack =
      (Float.Model.pack (UnpackedFloat.roundWithAccuracy .binary64 .positive (2 ^ 53 * 10 ^ n)
        (-53) .exact)).unpack := by
  have hlarge : ¬ (1 < 2 ^ 53 ∧ n ≤ 22) := fun h => Nat.not_le.2 hlow h.2
  have hpower : Float.ofScientific 1 false n = ⟨Float.Model.ofScientific 1 n⟩ := by
    rw [Float.ofScientific, dif_neg hlarge]
    rfl
  rw [hpower, Float.Model.ofScientific, UnpackedFloat.ofScientific, dif_neg Nat.one_ne_zero,
    if_neg, if_neg, if_pos]
  · rfl
  · omega
  · change ¬ (n : Int) < -2048
    omega
  · change ¬ (n : Int) > 2048
    omega

theorem log2_power_mono {n k : Nat} (h : n ≤ k) :
    (2 ^ 53 * 10 ^ n).log2 ≤ (2 ^ 53 * 10 ^ k).log2 := by
  rw [Nat.log2_eq_log_two, Nat.log2_eq_log_two]
  exact Nat.log_mono_right (Nat.mul_le_mul_left _ (Nat.pow_le_pow_right (by decide) h))

/-- Powers of ten up to the 308th are finite and not zero. -/
theorem isProper_power {n : Nat} (hn : n ≤ 308) :
    IsProper (Float.ofScientific 1 false n).toModel.unpack := by
  by_cases hsmall : n ≤ 22
  · have hall : ∀ n ≤ 22, IsProper (Float.ofScientific 1 false n).toModel.unpack := by
      decide +kernel
    exact hall n hsmall
  -- The exponent of the last power has no room for a mantissa that is rounded up to 54 bits.
  by_cases hlast : n = 308
  · rw [hlast]
    decide +kernel
  have hlow : 52 ≤ (2 ^ 53 * 10 ^ n).log2 :=
    Nat.le_trans (by decide +kernel) (log2_power_mono (Nat.zero_le n))
  have hhigh : (2 ^ 53 * 10 ^ n).log2 ≤ 1075 :=
    Nat.le_trans (log2_power_mono (k := 307) (by omega)) (by decide +kernel)
  rw [unpack_power (by omega) (by omega)]
  exact isProper_round hlow (by decide) (by omega)

end HandStudy.Floats
