import CollisionWatch.Decimal.Precision
import CollisionWatch.Proofs.Decimal.Binary
import Mathlib

/-!
# Widening loses nothing

A number of single precision is a double: rounded to one it keeps its value, so that rounding the
double back gives the same number, bit for bit (`narrow_widen`).  What carries this is that unpacked
bits are canonical, with the exponent that their format asks of the value, and that rounding moves a
value between canonical forms without touching it (`round_of_canonical`).
-/

namespace CollisionWatch.Decimal

open Float.Model (UnpackedFloat Format totalExponent)
open Float.Model.UnpackedFloat

/-! ## Rounding what needs none -/

/-- Zeros behind a binary number add to its length. -/
theorem log2_mul_two_pow {m : Nat} (hm : 0 < m) (k : Nat) : (m * 2 ^ k).log2 = m.log2 + k := by
  have hlow : 2 ^ m.log2 ≤ m := Nat.log2_self_le hm.ne'
  have hhigh : m < 2 ^ (m.log2 + 1) := Nat.lt_log2_self
  refine (Nat.log2_eq_iff (Nat.mul_pos hm (Nat.two_pow_pos k)).ne').2 ⟨?_, ?_⟩
  · rw [pow_add]
    exact Nat.mul_le_mul_right _ hlow
  · rw [show m.log2 + k + 1 = m.log2 + 1 + k by omega, pow_add]
    exact Nat.mul_lt_mul_of_pos_right hhigh (Nat.two_pow_pos k)

/-- The leading digit stands where it stood. -/
theorem totalExponent_mul_two_pow {m : Nat} (hm : 0 < m) (e : Int) (k : Nat) :
    totalExponent (m * 2 ^ k) (e - k) = totalExponent m e := by
  rw [totalExponent, totalExponent, log2_mul_two_pow hm]
  push_cast
  omega

/-- Zeros at the end are shifted out without a trace. -/
theorem shiftRight_mul_two_pow (m k : Nat) :
    (⟨m * 2 ^ k, false, false⟩ : ExtendedMantissa) >>> k = ⟨m, false, false⟩ := by
  induction k generalizing m with
  | zero => simp [HShiftRight.hShiftRight, Nat.repeat]
  | succ k ih =>
    have hshift := ih (2 * m)
    rw [show m * 2 ^ (k + 1) = 2 * m * 2 ^ k by rw [pow_succ]; ring]
    change ((⟨2 * m * 2 ^ k, false, false⟩ : ExtendedMantissa) >>> k).shiftRightOne = _
    rw [hshift]
    simp [ExtendedMantissa.shiftRightOne]

/-- The exponent is the one that a format asks of the value. -/
def IsCanonical (format : Format) (m : Nat) (e : Int) : Prop :=
  format.targetExponent (totalExponent m e) = e

variable {format : Format} {m : Nat} {e : Int}

/-- A canonical number loses nothing when zeros behind it are dropped again. -/
theorem shiftToTargetExponent_of_canonical (h : IsCanonical format m e) (hm : 0 < m) (k : Nat) :
    shiftToTargetExponent format (m * 2 ^ k) (e - k) .exact = (⟨m, false, false⟩, e) := by
  have hshift := shiftRight_mul_two_pow m k
  rw [shiftToTargetExponent, totalExponent_mul_two_pow hm, h, shiftToExponent]
  rw [show (e - (e - k)).toNat = k by omega]
  simpa [ExtendedMantissa.ofMantissaAndAccuracy] using hshift

/-- Digits beyond a canonical form that are all zero are rounded away. -/
theorem roundWithAccuracy_of_canonical (h : IsCanonical format m e) (hm : 0 < m) (sign : Sign)
    (k : Nat) : roundWithAccuracy format sign (m * 2 ^ k) (e - k) .exact = .finite sign m e hm := by
  have hfirst := shiftToTargetExponent_of_canonical h hm k
  have hagain := shiftToTargetExponent_of_canonical h hm 0
  simp only [pow_zero, mul_one, Int.natCast_zero, sub_zero] at hagain
  simp [roundWithAccuracy, hfirst, hagain, ExtendedMantissa.roundedMantissa,
    ExtendedMantissa.accuracy, Accuracy.roundToNearestEven, hm.ne']

/-- A canonical form with fewer digits is found by rounding one with more. -/
theorem round_mul_two_pow (h : IsCanonical format m e) (hm : 0 < m) (sign : Sign) (k : Nat) :
    UnpackedFloat.round format sign (m * 2 ^ k) (e - k) = .finite sign m e hm := by
  have htarget : format.targetExponent (totalExponent (m * 2 ^ k) (e - k)) = e := by
    rw [totalExponent_mul_two_pow hm, h]
  have hround := roundWithAccuracy_of_canonical h hm sign k
  simpa [UnpackedFloat.round, htarget, decreaseExponent] using hround

/-- A canonical form with more digits is found by rounding one with fewer. -/
theorem round_of_canonical {k : Nat} (h : IsCanonical format (m * 2 ^ k) (e - k)) (hm : 0 < m)
    (sign : Sign) : UnpackedFloat.round format sign m e =
      .finite sign (m * 2 ^ k) (e - k) (Nat.mul_pos hm (Nat.two_pow_pos k)) := by
  have htarget : format.targetExponent (totalExponent m e) = e - k := by
    rw [← totalExponent_mul_two_pow hm e k, h]
  have hround := roundWithAccuracy_of_canonical h (Nat.mul_pos hm (Nat.two_pow_pos k)) sign 0
  simpa [UnpackedFloat.round, htarget, decreaseExponent, Nat.shiftLeft_eq] using hround

/-! ## Packing -/

/-- A normal number is unpacked as it was packed. -/
theorem unpack_pack_of_normal (hm : 0 < m) (sign : Sign)
    (hlog : m.log2 = format.mantissaBitsWithoutImplicit)
    (hlow : 0 < e + format.exponentBias + format.mantissaBitsWithoutImplicit)
    (hhigh : e + format.exponentBias + format.mantissaBitsWithoutImplicit + 1 <
      2 ^ format.exponentBits) :
    unpack format (pack format (.finite sign m e hm)) = .finite sign m e hm := by
  obtain ⟨hle, hlt⟩ := (Nat.log2_eq_iff hm.ne').1 hlog
  obtain ⟨field, hfield⟩ := Int.eq_ofNat_of_zero_le hlow.le
  have hwidth : field + 1 < 2 ^ format.exponentBits := by
    rw [hfield] at hhigh
    exact_mod_cast hhigh
  have hpos : 0 < field := by omega
  -- The exponent field is not all ones, as for an infinity, and not zero, as for a zero.
  have hones : BitVec.ofNat format.exponentBits field ≠ -1#_ := by
    rw [ne_eq, ← BitVec.toNat_inj, BitVec.neg_one_eq_allOnes, BitVec.toNat_allOnes,
      BitVec.toNat_ofNat, Nat.mod_eq_of_lt (by omega)]
    omega
  have hzero : BitVec.ofNat format.exponentBits field ≠ 0#_ := by
    rw [ne_eq, ← BitVec.toNat_inj, BitVec.toNat_ofNat, Nat.mod_eq_of_lt (by omega)]
    simpa using hpos.ne'
  have hsignificand : (1#1 ++ BitVec.ofNat format.mantissaBitsWithoutImplicit m).toNat = m := by
    rw [pow_succ] at hlt
    rw [BitVec.toNat_append, ← Nat.shiftLeft_add_eq_or_of_lt (BitVec.isLt _), BitVec.toNat_ofNat,
      BitVec.toNat_ofNat, Nat.mod_eq_sub_mod hle,
      Nat.mod_eq_of_lt (show m - 2 ^ format.mantissaBitsWithoutImplicit < _ by omega), pow_one,
      Nat.mod_succ, Nat.one_shiftLeft]
    omega
  have hpack : pack format (.finite sign m e hm) =
      packComponents format sign (BitVec.ofNat _ field) (BitVec.ofNat _ m) := by
    rw [pack, hfield, Int.toNat_natCast, if_neg (by omega), if_pos]
    rw [hlog, Format.mantissaBits]
    omega
  rw [hpack, unpack]
  simp only [unpackExponent_packComponents, unpackMantissa_packComponents,
    unpackSign_packComponents, Sign.ofBitVec_toBitVec, if_neg hones, if_neg hzero, hsignificand,
    BitVec.toNat_ofNat, Nat.mod_eq_of_lt (show field < 2 ^ format.exponentBits by omega)]
  congr 1
  omega

/-- A subnormal number is unpacked as it was packed. -/
theorem unpack_pack_of_subnormal (hm : 0 < m) (sign : Sign)
    (hlog : m.log2 < format.mantissaBitsWithoutImplicit)
    (he : e + format.exponentBias + format.mantissaBitsWithoutImplicit = 1)
    (hbits : 2 < 2 ^ format.exponentBits) :
    unpack format (pack format (.finite sign m e hm)) = .finite sign m e hm := by
  have hlt := (Nat.log2_lt hm.ne').1 hlog
  have hpack : pack format (.finite sign m e hm) =
      packComponents format sign 0#_ (BitVec.ofNat _ m) := by
    rw [pack, he, Int.toNat_one, if_neg (by omega), if_neg]
    rw [Format.mantissaBits]
    omega
  have hmantissa : (BitVec.ofNat format.mantissaBitsWithoutImplicit m).toNat = m := by
    rw [BitVec.toNat_ofNat, Nat.mod_eq_of_lt hlt]
  have hones : (0#_ : BitVec format.exponentBits) ≠ -1#_ := by
    rw [ne_eq, ← BitVec.toNat_inj, BitVec.neg_one_eq_allOnes, BitVec.toNat_allOnes,
      BitVec.toNat_ofNat, Nat.zero_mod]
    omega
  have hsome : BitVec.ofNat format.mantissaBitsWithoutImplicit m ≠ 0#_ := by
    rw [ne_eq, ← BitVec.toNat_inj, hmantissa]
    simpa using hm.ne'
  rw [hpack, unpack]
  simp only [unpackExponent_packComponents, unpackMantissa_packComponents,
    unpackSign_packComponents, Sign.ofBitVec_toBitVec, if_neg hones, if_true, dif_neg hsome,
    hmantissa, BitVec.toNat_ofNat, Nat.zero_mod]
  congr 1
  omega

/-- The least exponent belongs to the lowest bit of the smallest numbers. -/
theorem minExponent_eq (format : Format) :
    format.minExponent = 1 - (format.exponentBias + format.mantissaBitsWithoutImplicit) := by
  have hpos := Nat.two_pow_pos (format.exponentBits - 1)
  have hcast : ((2 ^ (format.exponentBits - 1) : Nat) : Int) = 2 ^ (format.exponentBits - 1) := by
    push_cast
    rfl
  rw [Format.minExponent, Format.exponentBias, Format.mantissaBits, ← hcast]
  omega

/-- **A canonical number is unpacked as it was packed**, unless its exponent is too large. -/
theorem unpack_pack_of_canonical (h : IsCanonical format m e) (hm : 0 < m) (sign : Sign)
    (hbits : 2 < 2 ^ format.exponentBits)
    (hhigh : e + format.exponentBias + format.mantissaBitsWithoutImplicit + 1 <
      2 ^ format.exponentBits) :
    unpack format (pack format (.finite sign m e hm)) = .finite sign m e hm := by
  have hleast := minExponent_eq format
  rw [IsCanonical, Format.targetExponent, totalExponent, Format.mantissaBits] at h
  rcases lt_trichotomy m.log2 format.mantissaBitsWithoutImplicit with hlog | hlog | hlog
  · exact unpack_pack_of_subnormal hm sign hlog (by omega) hbits
  · exact unpack_pack_of_normal hm sign hlog (by omega) hhigh
  · omega

/-- **Unpacked bits are canonical**, and their exponent is one of the format. -/
theorem isCanonical_of_unpack {bits : BitVec format.numBits} {sign : Sign} {hm : 0 < m}
    (h : unpack format bits = .finite sign m e hm) :
    IsCanonical format m e ∧ m.log2 ≤ format.mantissaBitsWithoutImplicit ∧
      format.minExponent ≤ e ∧
      e + format.exponentBias + format.mantissaBitsWithoutImplicit < 2 ^ format.exponentBits := by
  have hleast := minExponent_eq format
  have hfraction := (unpackMantissa bits).isLt
  have hfield := (unpackExponent bits).isLt
  have hcast : ((2 ^ format.exponentBits : Nat) : Int) = 2 ^ format.exponentBits := by
    push_cast
    rfl
  have hbits : 1 < 2 ^ format.exponentBits := Nat.one_lt_two_pow format.he.ne'
  unfold unpack at h
  simp only [← BitVec.toNat_inj, BitVec.neg_one_eq_allOnes, BitVec.toNat_allOnes] at h
  split_ifs at h with hones hinfinite hzero hsubnormal
  · -- a subnormal number has fewer digits, and the least exponent
    obtain ⟨rfl, rfl, rfl⟩ := UnpackedFloat.finite.inj h
    have hlog := (Nat.log2_lt hm.ne').2 hfraction
    simp only [BitVec.toNat_ofNat, Nat.zero_mod] at hzero
    rw [hzero]
    refine ⟨?_, hlog.le, ?_, ?_⟩
    · simp only [IsCanonical, Format.targetExponent, totalExponent, Format.mantissaBits]
      omega
    · omega
    · omega
  · obtain ⟨rfl, rfl, rfl⟩ := UnpackedFloat.finite.inj h
    have hlog : (1#1 ++ unpackMantissa bits).toNat.log2 = format.mantissaBitsWithoutImplicit := by
      refine (Nat.log2_eq_iff hm.ne').2 ?_
      rw [Binary.toNat_append_unpackMantissa, pow_succ]
      omega
    simp only [BitVec.toNat_ofNat, Nat.zero_mod] at hzero
    refine ⟨?_, hlog.le, ?_, ?_⟩
    · simp only [IsCanonical, Format.targetExponent, totalExponent, Format.mantissaBits, hlog]
      omega
    · omega
    · omega

/-! ## Single precision -/

/-- The significand of a finite single is canonical, and has at most twenty-four bits. -/
theorem isCanonical_of_unpack_single {x : Float32} {sign : Sign} {hm : 0 < m}
    (h : x.toModel.unpack = .finite sign m e hm) :
    IsCanonical .binary32 m e ∧ m.log2 ≤ 23 ∧ -149 ≤ e ∧ e ≤ 105 := by
  obtain ⟨hcanonical, hlog, hlow, hhigh⟩ := @isCanonical_of_unpack .binary32 _ _ _ _ _ h
  have hbias : Format.binary32.exponentBias = 127 := rfl
  rw [hbias] at hhigh
  exact ⟨hcanonical, hlog, hlow, by norm_num at hhigh; omega⟩

/-- A finite number of single precision is canonical as a double once it has fifty-three digits. -/
theorem isCanonical_double (hlog : m.log2 ≤ 23) (hlow : -149 ≤ e) (hm : 0 < m) :
    IsCanonical .binary64 (m * 2 ^ (52 - m.log2)) (e - (52 - m.log2 : Nat)) := by
  rw [IsCanonical, totalExponent_mul_two_pow hm]
  simp only [Format.targetExponent, totalExponent, Format.mantissaBits, Format.minExponent]
  omega

/-- **The double is what rounding to one leaves.** -/
theorem unpack_widen (x : Float32) :
    (widen x).toModel.unpack = roundTo .binary64 x.toModel.unpack := by
  change unpack .binary64 (pack .binary64 (roundTo .binary64 x.toModel.unpack)) = _
  cases h : x.toModel.unpack with
  | notANumber => exact unpack_packedNaN
  | infinity sign => cases sign <;> rfl
  | zero sign => exact unpack_packedZero
  | finite sign m e hm =>
    obtain ⟨-, hlog, hlow, hhigh⟩ := isCanonical_of_unpack_single h
    have hbias : Format.binary64.exponentBias = 1023 := rfl
    have hdigits := log2_mul_two_pow hm (52 - m.log2)
    rw [roundTo, round_of_canonical (isCanonical_double hlog hlow hm) hm]
    refine unpack_pack_of_normal _ sign ?_ ?_ ?_
    · rw [hdigits]
      exact Nat.add_sub_of_le (by omega)
    · rw [hbias]
      omega
    · rw [hbias]
      norm_num
      omega

/-- Rounding to a double and back changes nothing. -/
theorem roundTo_roundTo (x : Float32) :
    roundTo .binary32 (roundTo .binary64 x.toModel.unpack) = x.toModel.unpack := by
  cases h : x.toModel.unpack with
  | finite sign m e hm =>
    obtain ⟨hcanonical, hlog, hlow, -⟩ := isCanonical_of_unpack_single h
    rw [roundTo, round_of_canonical (isCanonical_double hlog hlow hm) hm, roundTo]
    exact round_mul_two_pow hcanonical hm sign _
  | _ => rfl

/-- **Widening loses nothing.** -/
theorem narrow_widen (x : Float32) : narrow (widen x) = x := by
  rw [narrow, unpack_widen, roundTo_roundTo, ← Float32.toBits_inj]
  change UInt32.ofBitVec (pack .binary32 (unpack .binary32 x.toModel.toBits.toBitVec)) = _
  rw [pack_unpack_of_valid x.toModel.valid]
  rfl

/-- Only what is no number is widened to what is none. -/
theorem isNaN_widen (x : Float32) : (widen x).isNaN = x.isNaN := by
  change (widen x).toModel.unpack.isNaN = x.toModel.unpack.isNaN
  rw [unpack_widen]
  cases h : x.toModel.unpack with
  | finite sign m e hm =>
    obtain ⟨-, hlog, hlow, -⟩ := isCanonical_of_unpack_single h
    rw [roundTo, round_of_canonical (isCanonical_double hlog hlow hm) hm]
    rfl
  | _ => rfl

end CollisionWatch.Decimal
