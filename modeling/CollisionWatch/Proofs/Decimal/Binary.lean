import CollisionWatch.Decimal.Places
import Mathlib

/-!
# What the bits of a float stand for

`Binary.read` takes the bits of a float apart into natural numbers.  `Binary.Matches` ties what it
answers to the float as the machine unpacks it, and `matches_ofDouble` and `matches_ofSingle` say
that the two always agree; so comparisons, which are about unpacked floats, and digits, which are
about `Binary`, can be spoken of together.  `Binary.value` is the number itself.
-/

namespace CollisionWatch.Decimal

open Float.Model (UnpackedFloat Format)
open Float.Model.UnpackedFloat

namespace Binary

/-- The bits stand for an unpacked float. -/
inductive Matches : Binary → UnpackedFloat → Prop
  /-- Neither is a number. -/
  | notANumber : Matches .notANumber .notANumber
  /-- Both are the same infinity. -/
  | infinity (sign : Sign) : Matches (.infinite (sign == .negative)) (.infinity sign)
  /-- Both are the same zero. -/
  | zero (sign : Sign) (exponent : Int) :
    Matches (.finite (sign == .negative) 0 exponent false) (.zero sign)
  /-- Both are the same finite number. -/
  | finite (sign : Sign) (significand : Nat) (exponent : Int) (hpos : 0 < significand)
      (narrow : Bool) :
    Matches (.finite (sign == .negative) significand exponent narrow)
      (.finite sign significand exponent hpos)

/-- A finite number matches one of the same significand and exponent. -/
theorem Matches.of_eq {sign : Sign} {m m' : Nat} {e e' : Int} {hpos : 0 < m} {narrow : Bool}
    (hm : m' = m) (he : e' = e) :
    Matches (.finite (sign == .negative) m' e' narrow) (.finite sign m e hpos) := by
  subst hm he
  exact .finite sign m' e' hpos narrow

/-- The format with the fields of a width. -/
structure IsFormat (width : FloatWidth) (format : Format) : Prop where
  /-- The significands have as many bits. -/
  fractionBits : width.fractionBits = format.mantissaBitsWithoutImplicit
  /-- The exponents have as many bits. -/
  exponentBits : width.exponentBits = format.exponentBits

/-- The layout of a double is that of its format. -/
theorem isFormat_double : IsFormat .double .binary64 := ⟨rfl, rfl⟩

/-- The layout of a single is that of its format. -/
theorem isFormat_single : IsFormat .single .binary32 := ⟨rfl, rfl⟩

section

variable {format : Format} (bits : BitVec format.numBits)

/-- The mantissa is the low bits. -/
theorem toNat_unpackMantissa :
    (unpackMantissa bits).toNat = bits.toNat % 2 ^ format.mantissaBitsWithoutImplicit := by
  rw [unpackMantissa_def, BitVec.extractLsb'_toNat, Nat.shiftRight_zero]

/-- The exponent is the bits above them. -/
theorem toNat_unpackExponent :
    (unpackExponent bits).toNat =
      bits.toNat / 2 ^ format.mantissaBitsWithoutImplicit % 2 ^ format.exponentBits := by
  rw [unpackExponent_def, BitVec.extractLsb'_toNat, Nat.shiftRight_eq_div_pow]

/-- The sign is the bit on top. -/
theorem toNat_unpackSign :
    (unpackSign bits).toNat =
      bits.toNat / 2 ^ (format.mantissaBitsWithoutImplicit + format.exponentBits) % 2 := by
  rw [unpackSign_def, BitVec.extractLsb'_toNat, Nat.shiftRight_eq_div_pow, pow_one]

/-- A sign bit of one means negative. -/
theorem ofBitVec_beq_negative (b : BitVec 1) :
    (Sign.ofBitVec b == .negative) = (b.toNat == 1) := by
  decide +revert

/-- The significand of a normal number has one more bit in front. -/
theorem toNat_append_unpackMantissa :
    (1#1 ++ unpackMantissa bits).toNat =
      2 ^ format.mantissaBitsWithoutImplicit + (unpackMantissa bits).toNat := by
  rw [BitVec.toNat_append, ← Nat.shiftLeft_add_eq_or_of_lt (unpackMantissa bits).isLt]
  simp [Nat.shiftLeft_eq]

end

/-- **Taking the bits apart agrees with unpacking them.** -/
theorem IsFormat.matches_read {width : FloatWidth} {format : Format} (h : IsFormat width format)
    (bits : BitVec format.numBits) :
    (read width bits.toNat).Matches (unpack format bits) := by
  have hallOnes : ∀ n : Nat, (-1#n).toNat = 2 ^ n - 1 := fun n => by
    rw [BitVec.neg_one_eq_allOnes, BitVec.toNat_allOnes]
  have hbias : (format.exponentBias : Int) = ((2 ^ (format.exponentBits - 1) : Nat) : Int) - 1 := by
    unfold Format.exponentBias
    have hpos := Nat.two_pow_pos (format.exponentBits - 1)
    omega
  unfold read unpack
  simp only [h.fractionBits, h.exponentBits, Nat.pow_eq, ← toNat_unpackMantissa,
    ← toNat_unpackExponent, ← toNat_unpackSign, ← ofBitVec_beq_negative, ← BitVec.toNat_inj,
    hallOnes, BitVec.toNat_ofNat, Nat.zero_mod]
  split_ifs with hinfinite hzero hsubnormal hfraction
  · exact .infinity _
  · exact .notANumber
  · rw [hfraction]
    exact .zero _ _
  · exact .of_eq rfl (by rw [hbias, hsubnormal]; omega)
  · exact .of_eq (toNat_append_unpackMantissa bits).symm (by rw [hbias])

/-- A significand has at most one bit more than its field. -/
theorem lt_of_read_eq {width : FloatWidth} {bits : Nat} {negative narrow : Bool} {m : Nat} {e : Int}
    (h : read width bits = .finite negative m e narrow) : m < 2 ^ (width.fractionBits + 1) := by
  have hfraction : bits % 2 ^ width.fractionBits < 2 ^ width.fractionBits :=
    Nat.mod_lt _ (Nat.two_pow_pos _)
  unfold read at h
  simp only [Nat.pow_eq] at h
  rw [pow_succ]
  split_ifs at h <;> cases h <;> omega

/-- What is read off a double is its value. -/
theorem matches_ofDouble (x : Float) : (ofDouble x).Matches x.toModel.unpack :=
  isFormat_double.matches_read x.toBits.toBitVec

/-- What is read off a single is its value. -/
theorem matches_ofSingle (x : Float32) : (ofSingle x).Matches x.toModel.unpack :=
  isFormat_single.matches_read x.toBits.toBitVec

/-- The unpacked float says everything about a double. -/
theorem eq_of_unpack_eq {x y : Float} (h : x.toModel.unpack = y.toModel.unpack) : x = y := by
  have hbits := (unpack_inj_of_valid x.toModel.valid y.toModel.valid).1 h
  rw [← Float.toBits_inj]
  exact UInt64.toBitVec_inj.1 hbits

/-! ## The number itself -/

/-- The number that bits stand for; zero if they stand for none. -/
def value : Binary → ℚ
  | .finite negative significand exponent _ =>
    (if negative then -1 else 1) * (significand * 2 ^ exponent)
  | _ => 0

end Binary

/-- The value of a dyadic fraction. -/
theorem Ratio.ofDyadic_eq (n : Nat) (e : Int) :
    ((Ratio.ofDyadic n e).num : ℚ) / (Ratio.ofDyadic n e).den = n * 2 ^ e := by
  unfold ofDyadic
  simp only [Nat.pow_eq]
  push_cast
  obtain ⟨k, rfl | rfl⟩ := e.eq_nat_or_neg
  · simp
  · simp [zpow_neg, div_eq_mul_inv]

/-- No such fraction has the denominator nought. -/
theorem Ratio.den_ofDyadic_pos (n : Nat) (e : Int) : 0 < (Ratio.ofDyadic n e).den :=
  Nat.two_pow_pos _

end CollisionWatch.Decimal
