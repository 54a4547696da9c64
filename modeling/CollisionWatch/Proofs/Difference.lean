import CollisionWatch.Proofs.Double
import Mathlib

/-!
# Differences of doubles

The difference of a number and a finite double is a number (`isNumber_sub`), and doubles that are
equal as numbers differ by zero (`isZero_sub`). So a distance in time always compares with a
tolerance, and the distance to the same time is within every tolerance (`sub_le`).
-/

namespace CollisionWatch.Double

open Float.Model (UnpackedFloat Format)
open Float.Model.UnpackedFloat

/-! ## Packing -/

/-- The unpacked float is a zero. -/
def IsZeroUnpacked (a : UnpackedFloat) : Prop := ∃ sign, a = .zero sign

/-- The double is a zero. -/
def IsZero (x : Float) : Prop := IsZeroUnpacked x.toModel.unpack

/-- An unpacked zero is packed as one. -/
theorem isZeroUnpacked_pack {format : Format} {a : UnpackedFloat} (h : IsZeroUnpacked a) :
    IsZeroUnpacked (unpack format (pack format a)) := by
  obtain ⟨sign, rfl⟩ := h
  exact ⟨sign, unpack_packedZero⟩

/-- Only what is not a number is packed so that it unpacks to that. -/
theorem isNaN_unpack_pack (format : Format) (a : UnpackedFloat) :
    (unpack format (pack format a)).isNaN = a.isNaN := by
  have hinfinite : ∀ sign, (unpack format (packedInfinity format sign)).isNaN = false := by
    intro sign
    simp [unpack, packedInfinity, UnpackedFloat.isNaN]
  cases a with
  | notANumber => rw [pack, unpack_packedNaN]
  | infinity sign => exact hinfinite sign
  | zero sign => rw [pack, unpack_packedZero]
  | finite sign m e hm =>
    unfold pack
    dsimp only
    split
    · exact hinfinite sign
    · rename_i hwidth
      split
      · have hones : BitVec.ofNat format.exponentBits
            (e + format.exponentBias + format.mantissaBitsWithoutImplicit).toNat ≠ -1#_ := by
          rw [ne_eq, ← BitVec.toNat_inj, BitVec.neg_one_eq_allOnes, BitVec.toNat_allOnes,
            BitVec.toNat_ofNat, Nat.mod_eq_of_lt (by omega)]
          omega
        unfold unpack
        simp only [unpackExponent_packComponents, if_neg hones]
        split <;> [split; skip] <;> rfl
      · have hzero : BitVec.ofNat format.exponentBits 0 ≠ -1#_ := by
          simp [BitVec.zero_eq_neg_one_iff, Nat.ne_of_gt format.he]
        unfold unpack
        simp only [unpackExponent_packComponents, if_neg hzero]
        split <;> [split; skip] <;> rfl

/-! ## Differences -/

/-- A finite float is rounded to a number. -/
theorem isNaN_normalize (format : Format) (m e : Int) (sign : Sign) :
    (UnpackedFloat.normalize format m e sign).isNaN = false := by
  have hround : ∀ sign m e, (UnpackedFloat.round format sign m e).isNaN = false := by
    intro sign m e
    unfold UnpackedFloat.round roundWithAccuracy
    dsimp only
    split <;> rfl
  unfold UnpackedFloat.normalize
  split
  · exact hround _ _ _
  · rfl
  · exact hround _ _ _

/-- The difference of two numbers of which one is finite is a number. -/
theorem isNaN_sub {format : Format} {a b : UnpackedFloat} (ha : a.isNaN = false)
    (hb : b.isNaN = false) (h : a.isFinite = true ∨ b.isFinite = true) :
    (sub format a b).isNaN = false := by
  rcases a with ⟨_ | _⟩ | _ | ⟨_ | _⟩ | ⟨sign, m, e, hm⟩ <;>
    rcases b with ⟨_ | _⟩ | _ | ⟨_ | _⟩ | ⟨sign', n, f, hn⟩ <;>
    first
    | rfl
    | exact isNaN_normalize _ _ _ _
    | exact absurd ha (by decide)
    | exact absurd hb (by decide)
    | exact absurd h (by decide)

/-- Floats that are equal as numbers differ by zero, if they are finite. -/
theorem isZeroUnpacked_sub (format : Format) {a b : UnpackedFloat} (h : a.beq b = true)
    (hfinite : a.isFinite = true ∨ b.isFinite = true) : IsZeroUnpacked (sub format a b) := by
  obtain ⟨-, -, rfl | ⟨rfl, rfl⟩ | ⟨rfl, rfl⟩⟩ := (beq_iff_ne_notANumber_and_eq a b).1 h
  · rw [or_self] at hfinite
    cases a with
    | notANumber => cases hfinite
    | infinity sign => cases hfinite
    | zero sign => cases sign <;> exact ⟨_, rfl⟩
    | finite sign m e hm =>
      refine ⟨.positive, ?_⟩
      simp only [sub, Int.sub_self, UnpackedFloat.normalize]
      rfl
  · exact ⟨_, rfl⟩
  · exact ⟨_, rfl⟩

variable {x y z : Float} (hfinite : x.isFinite = true ∨ y.isFinite = true)

include hfinite

/-- **The difference of two numbers of which one is finite is a number.** -/
theorem isNumber_sub (hx : IsNumber x) (hy : IsNumber y) : IsNumber (x - y) := by
  change (unpack .binary64 (pack .binary64 (sub .binary64 _ _))).isNaN = false
  rw [isNaN_unpack_pack]
  exact isNaN_sub hx hy hfinite

/-- **Doubles that are equal as numbers differ by zero**, if they are finite. -/
theorem isZero_sub (hxy : x ≤ y) (hyx : y ≤ x) : IsZero (x - y) := by
  have heq : x.toModel.unpack.beq y.toModel.unpack = true := (beq_iff x y).2 ⟨hxy, hyx⟩
  exact isZeroUnpacked_pack (isZeroUnpacked_sub .binary64 heq hfinite)

/-- The distance to the same time is within every tolerance. -/
theorem sub_le (hxy : x ≤ y) (hyx : y ≤ x) (hz : 0 ≤ z) : x - y ≤ z := by
  obtain ⟨sign, hzero⟩ := isZero_sub hfinite hxy hyx
  obtain ⟨hnumber, hz'⟩ := isNumber_of_le hz
  obtain ⟨hx, hy⟩ := isNumber_of_le hxy
  rw [le_iff_rank_le hnumber hz'] at hz
  rw [le_iff_rank_le (isNumber_sub hfinite hx hy) hz']
  refine le_of_eq_of_le ?_ hz
  rw [rank, hzero]
  rfl

omit hfinite in
/-- Zero divided by a number above zero is zero. -/
theorem isZero_div (hx : IsZero x) (hy : 0 < y) : IsZero (x / y) := by
  obtain ⟨sign, hx⟩ := hx
  have hpositive : UnpackedFloat.lt (.zero .positive) y.toModel.unpack = true := (lt_iff 0 y).1 hy
  have hquotient : IsZeroUnpacked (div .binary64 x.toModel.unpack y.toModel.unpack) := by
    rw [hx]
    cases hunpack : y.toModel.unpack with
    | notANumber => rw [hunpack] at hpositive; cases hpositive
    | infinity sign' => exact ⟨_, rfl⟩
    | zero sign' => rw [hunpack] at hpositive; cases hpositive
    | finite sign' m e hm => exact ⟨_, rfl⟩
  exact isZeroUnpacked_pack hquotient

end CollisionWatch.Double
