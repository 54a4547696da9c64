import CollisionWatch.Proofs.Geometry.Rigid
import Mathlib.Algebra.Order.Field.Basic
import Mathlib.Analysis.Real.Sqrt

/-!
# Poses as motions in exact arithmetic

The formulas of poses over an ordered field, instead of single-precision floats, are motions as
well; the weight of a blend is then the number that its float stands for (`Single.value`). If the
field has square roots, a blend is rigid whatever it is made of, since its rotation is scaled to
norm one (`Pose.isRigid_blend`). The real numbers are such a field.
-/

namespace CollisionWatch

/-- The number that a single-precision float stands for, if it stands for any. -/
def Single.value (K : Type) [Field K] (x : Float32) : K :=
  match x.toModel.unpack with
  | .finite .negative significand exponent _ => -(significand * 2 ^ exponent)
  | .finite .positive significand exponent _ => significand * 2 ^ exponent
  | _ => 0

variable {K : Type} [Field K] [LinearOrder K] [RootScalar K]

/-- Poses over an ordered field are motions. -/
instance : Motion (Pose K) where
  identity := .identity
  compose := .compose
  inverse := .inverse
  blend p q weight := p.blend q (Single.value K weight)

omit [RootScalar K] in
/-- What the norm is the root of is not negative. -/
theorem Quaternion.dot_self_nonneg [IsStrictOrderedRing K] (q : Quaternion K) : 0 ≤ q.dot q := by
  unfold dot
  linarith only [mul_self_nonneg q.w, mul_self_nonneg q.x, mul_self_nonneg q.y,
    mul_self_nonneg q.z]

variable (K) in
/-- The square roots of a field square to what they are taken of, and nothing is divided by zero. -/
class LawfulRootScalar : Prop where
  /-- A square root squares to what it is taken of. -/
  sqrt_mul_sqrt (x : K) : 0 ≤ x → RootScalar.sqrt x * RootScalar.sqrt x = x
  /-- Zero cannot be divided by. -/
  ne_zero_of_usable (x : K) : RootScalar.usable x = true → x ≠ 0

section

variable [IsStrictOrderedRing K] [LawfulRootScalar K]

/-- A quaternion that is scaled has norm one, and so has the one that takes its place. -/
theorem Quaternion.normalized_dot_self (q : Quaternion K) :
    q.normalized.dot q.normalized = 1 := by
  have hnorm : q.norm * q.norm = q.dot q :=
    LawfulRootScalar.sqrt_mul_sqrt _ q.dot_self_nonneg
  by_cases husable : RootScalar.usable q.norm = true
  · have hne : q.norm ≠ 0 := LawfulRootScalar.ne_zero_of_usable _ husable
    have hscaled : q.normalized = ⟨q.w / q.norm, q.x / q.norm, q.y / q.norm, q.z / q.norm⟩ :=
      if_pos husable
    rw [hscaled]
    simp only [dot] at hnorm ⊢
    field_simp
    linear_combination -hnorm
  · have hidentity : q.normalized = identity := if_neg husable
    simp [hidentity, identity, dot]

/-- **A blend of poses is rigid.** -/
theorem Pose.isRigid_blend (p q : Pose K) (weight : Float32) :
    (Motion.blend p q weight).IsRigid :=
  Quaternion.normalized_dot_self _

end

/-- Norms up to the gap after one cannot be divided by. -/
noncomputable instance : RootScalar ℝ where
  sqrt := Real.sqrt
  usable norm := decide (Single.value ℝ singleEpsilon < norm)

/-- A norm has to exceed this power of two to be divided by. -/
theorem Single.value_singleEpsilon : Single.value ℝ singleEpsilon = 2 ^ (-23 : ℤ) := by
  have hunpack : singleEpsilon.toModel.unpack = .finite .positive (2 ^ 23) (-46) (by decide) := rfl
  rw [Single.value, hunpack]
  norm_num

/-- The real numbers have roots. -/
instance : LawfulRootScalar ℝ where
  sqrt_mul_sqrt _ h := Real.mul_self_sqrt h
  ne_zero_of_usable x h := by
    have hlt : Single.value ℝ singleEpsilon < x := of_decide_eq_true h
    rw [Single.value_singleEpsilon] at hlt
    have hpos : (0 : ℝ) < 2 ^ (-23 : ℤ) := by positivity
    exact (hpos.trans hlt).ne'

end CollisionWatch
