import CollisionWatch.Proofs.Double
import Mathlib

/-!
# The order of single-precision floats

A comparison that holds is between numbers, and numbers of single precision are ordered by their
ranks just as doubles are. So comparisons can be chained (`le_trans`, `lt_of_lt_of_le`,
`lt_of_le_of_lt`), and they turn round under negation (`neg_le_neg`). Between numbers, and only
there, a comparison that fails is the opposite one that holds (`not_lt_iff`, `not_le_iff`); and what
lies between finite numbers is finite (`isFinite_of_le_of_le`). Negation turns the sign of the bits
and keeps the rest (`unpack_neg`), and a magnitude only loses the sign (`unpack_abs`): nothing is
lost on the way through the bits (`unpack_pack_unpack`).
-/

namespace CollisionWatch.Single

open Float.Model (UnpackedFloat Format)
open Float.Model.UnpackedFloat

/-! ## Signs -/

/-- Bits that are unpacked and packed again unpack to the same. -/
theorem unpack_pack_unpack (b : BitVec Format.binary32.numBits) :
    unpack .binary32 (pack .binary32 (unpack .binary32 b)) = unpack .binary32 b := by
  rw [pack_unpack b]
  split
  · rename_i hnan
    simp only [isNaNBits, decide_eq_true_eq] at hnan
    rw [unpack_packedNaN]
    simp [unpack, hnan]
  · rfl

/-- Unpacked bits are negated by the other sign. -/
theorem unpack_packComponents_neg (b : BitVec Format.binary32.numBits) :
    unpack .binary32 (packComponents .binary32 (-Sign.ofBitVec (unpackSign b)) (unpackExponent b)
      (unpackMantissa b)) = (unpack .binary32 b).neg := by
  unfold unpack
  simp only [unpackSign_packComponents, unpackExponent_packComponents,
    unpackMantissa_packComponents, Sign.ofBitVec_toBitVec]
  split_ifs <;> rfl

/-- Negation only turns the sign. -/
theorem unpack_neg (x : Float32) : (-x).toModel.unpack = x.toModel.unpack.neg := by
  change unpack .binary32 (pack .binary32 (unpack .binary32 x.toModel.toBits.toBitVec).neg) =
    (unpack .binary32 x.toModel.toBits.toBitVec).neg
  rw [← unpack_packComponents_neg, unpack_pack_unpack]

/-- A magnitude is what it was taken of, or the negation of it. -/
theorem abs_eq_or_eq_neg (a : UnpackedFloat) : a.abs = a ∨ a.abs = a.neg := by
  rcases a with ⟨_ | _⟩ | _ | ⟨_ | _⟩ | ⟨_ | _, m, e, _⟩ <;>
    first
    | exact .inl rfl
    | exact .inr rfl

/-- A magnitude only loses the sign. -/
theorem unpack_abs (x : Float32) : x.abs.toModel.unpack = x.toModel.unpack.abs := by
  change unpack .binary32 (pack .binary32 x.toModel.unpack.abs) = x.toModel.unpack.abs
  rcases abs_eq_or_eq_neg x.toModel.unpack with h | h
  · rw [h]
    exact unpack_pack_unpack x.toModel.toBits.toBitVec
  · rw [h]
    exact unpack_neg x

/-! ## Numbers -/

/-- What is finite is a number. -/
theorem isNaN_of_isFinite {x : Float32} (h : x.isFinite = true) : x.isNaN = false :=
  Double.isNaN_of_isFinite h

/-- The sign has no part in being a number. -/
@[simp] theorem isNaN_neg (x : Float32) : (-x).isNaN = x.isNaN := by
  change (-x).toModel.unpack.isNaN = x.toModel.unpack.isNaN
  rw [unpack_neg]
  cases x.toModel.unpack <;> rfl

/-- To take the sign away does not matter for being a number. -/
@[simp] theorem isNaN_abs (x : Float32) : x.abs.isNaN = x.isNaN := by
  change x.abs.toModel.unpack.isNaN = x.toModel.unpack.isNaN
  rw [unpack_abs]
  cases x.toModel.unpack <;> rfl

/-! ## Comparisons -/

/-- Negation turns comparisons round. -/
theorem compare_neg (a b : UnpackedFloat) : a.neg.compare b.neg = b.compare a := by
  rcases a with ⟨_ | _⟩ | _ | _ | ⟨_ | _, m, e, _⟩ <;>
    rcases b with ⟨_ | _⟩ | _ | _ | ⟨_ | _, n, f, _⟩ <;>
    first
    | rfl
    | exact congrArg some (Double.swap_compare_then e f m n)
    | exact congrArg some (Double.swap_compare_then f e n m).symm

variable {x y z : Float32}

/-- One single is no more than another if its value is no more. -/
theorem le_iff (x y : Float32) : x ≤ y ↔ x.toModel.unpack.le y.toModel.unpack = true := by
  change Float32.le x y = true ↔ _
  rw [Float32.le, decide_eq_true_iff]
  exact Iff.rfl

/-- One single is less than another if its value is. -/
theorem lt_iff (x y : Float32) : x < y ↔ x.toModel.unpack.lt y.toModel.unpack = true := by
  change Float32.lt x y = true ↔ _
  rw [Float32.lt, decide_eq_true_iff]
  exact Iff.rfl

/-- **A number that is not below another one is at least as large.** -/
theorem not_lt_iff (hx : x.isNaN = false) (hy : y.isNaN = false) : ¬ x < y ↔ y ≤ x := by
  rw [lt_iff, le_iff, Double.unpacked_lt_iff hx hy, Double.unpacked_le_iff hy hx, not_lt]

/-- What is less is no more. -/
theorem le_of_lt (h : x < y) : x ≤ y := by
  rw [lt_iff] at h
  obtain ⟨hx, hy⟩ := Double.isNaN_of_lt h
  rw [Double.unpacked_lt_iff hx hy] at h
  rw [le_iff, Double.unpacked_le_iff hx hy]
  exact h.le

/-- **A number that is not at most another one is above it.** -/
theorem not_le_iff (hx : x.isNaN = false) (hy : y.isNaN = false) : ¬ x ≤ y ↔ y < x := by
  rw [lt_iff, le_iff, Double.unpacked_lt_iff hy hx, Double.unpacked_le_iff hx hy, not_le]

/-- A number is no more than itself. -/
theorem le_refl (hx : x.isNaN = false) : x ≤ x := by
  rw [le_iff, Double.unpacked_le_iff hx hx]

/-- Singles in order one after the other are in order. -/
theorem le_trans (hxy : x ≤ y) (hyz : y ≤ z) : x ≤ z := by
  rw [le_iff] at hxy hyz ⊢
  obtain ⟨hx, hy⟩ := Double.isNaN_of_le hxy
  obtain ⟨-, hz⟩ := Double.isNaN_of_le hyz
  rw [Double.unpacked_le_iff hx hy] at hxy
  rw [Double.unpacked_le_iff hy hz] at hyz
  rw [Double.unpacked_le_iff hx hz]
  exact hxy.trans hyz

/-- Nothing finite lies beyond an infinity. -/
theorem beyond_infinity {a : UnpackedFloat} (ha : a.isFinite = true) :
    a.le (.infinity .negative) = false ∧ UnpackedFloat.le (.infinity .positive) a = false := by
  rcases a with ⟨_ | _⟩ | _ | _ | ⟨_ | _, m, e, _⟩ <;>
    first
    | exact ⟨rfl, rfl⟩
    | exact absurd ha (by decide)

/-- What lies between finite numbers is finite. -/
theorem isFinite_of_le_of_le (hx : x.isFinite = true) (hz : z.isFinite = true) (hxy : x ≤ y)
    (hyz : y ≤ z) : y.isFinite = true := by
  rw [le_iff] at hxy hyz
  change y.toModel.unpack.isFinite = true
  cases hy : y.toModel.unpack with
  | finite sign m e hm => rfl
  | zero sign => rfl
  | notANumber =>
    rw [hy] at hxy
    cases (Double.isNaN_of_le hxy).2
  | infinity sign =>
    rw [hy] at hxy hyz
    cases sign with
    | negative => cases hxy.symm.trans (beyond_infinity hx).1
    | positive => cases hyz.symm.trans (beyond_infinity hz).2

/-- Less and then no more is less. -/
theorem lt_of_lt_of_le (hxy : x < y) (hyz : y ≤ z) : x < z := by
  rw [lt_iff] at hxy ⊢
  rw [le_iff] at hyz
  obtain ⟨hx, hy⟩ := Double.isNaN_of_lt hxy
  obtain ⟨-, hz⟩ := Double.isNaN_of_le hyz
  rw [Double.unpacked_lt_iff hx hy] at hxy
  rw [Double.unpacked_le_iff hy hz] at hyz
  rw [Double.unpacked_lt_iff hx hz]
  exact hxy.trans_le hyz

/-- No more and then less is less. -/
theorem lt_of_le_of_lt (hxy : x ≤ y) (hyz : y < z) : x < z := by
  rw [le_iff] at hxy
  rw [lt_iff] at hyz ⊢
  obtain ⟨hx, hy⟩ := Double.isNaN_of_le hxy
  obtain ⟨-, hz⟩ := Double.isNaN_of_lt hyz
  rw [Double.unpacked_le_iff hx hy] at hxy
  rw [Double.unpacked_lt_iff hy hz] at hyz
  rw [Double.unpacked_lt_iff hx hz]
  exact hxy.trans_lt hyz

/-- **Negation turns comparisons round.** -/
theorem neg_le_neg (h : x ≤ y) : -y ≤ -x := by
  rw [le_iff] at h ⊢
  rw [unpack_neg, unpack_neg]
  unfold UnpackedFloat.le at h ⊢
  rwa [compare_neg]

end CollisionWatch.Single
