import CollisionWatch.Proofs.Geometry.Exact
import Mathlib.Tactic.Linarith

/-!
# Blends of rotations in exact arithmetic

The rotation between two others is a weighted sum that is scaled to norm one. A quaternion and its
negative are the same rotation, so the sum is taken with the one of them that lies on the side of
the other rotation (`Quaternion.dot_facing`). That keeps its squared norm between one half and one
(`Quaternion.half_le_blend`, `Quaternion.blend_le_one`), whatever the weight is; two opposite
quaternions would cancel out half-way, and the identity would take the place of their sum. Main
statement: a blend is steady (`Quaternion.nlerp_isSteady`).
-/

namespace CollisionWatch.Quaternion

section Field

variable {K : Type} [Field K]

/-! ## Negatives -/

/-- Turning the sign twice changes nothing. -/
@[simp] theorem neg_twice (q : Quaternion K) : q.neg.neg = q := by
  ext <;> simp [neg]

/-- A negative on the right turns the sign of the product. -/
theorem dot_neg (q r : Quaternion K) : q.dot r.neg = -q.dot r := by
  simp only [dot, neg]
  ring

/-- A negated quaternion on the left negates the product. -/
theorem neg_dot (q r : Quaternion K) : q.neg.dot r = -q.dot r := by
  simp only [dot, neg]
  ring

/-- Two of them leave it. -/
@[simp] theorem neg_dot_neg (q r : Quaternion K) : q.neg.dot r.neg = q.dot r := by
  rw [neg_dot, dot_neg, neg_neg]

/-- A quaternion and its negative are the same rotation. -/
theorem neg_rotate (q : Quaternion K) (v : Vector3 K) : q.neg.rotate v = q.rotate v := by
  ext <;> simp only [rotate, sandwich, mul, neg, conjugate, ofVector] <;> ring

variable [LinearOrder K] [IsStrictOrderedRing K] {q r : Quaternion K} {weight : K}

/-! ## The side of a quaternion -/

/-- Two quaternions are no more alike than their norms allow. -/
theorem dot_mul_dot_le (q r : Quaternion K) : q.dot r * q.dot r ≤ q.dot q * r.dot r := by
  -- What is missing are the squares of the parts of `r` that `q` has nothing of.
  have hmissing : q.dot q * r.dot r - q.dot r * q.dot r =
      (q.w * r.x - q.x * r.w) ^ 2 + (q.w * r.y - q.y * r.w) ^ 2 + (q.w * r.z - q.z * r.w) ^ 2 +
        (q.x * r.y - q.y * r.x) ^ 2 + (q.x * r.z - q.z * r.x) ^ 2 +
        (q.y * r.z - q.z * r.y) ^ 2 := by
    simp only [dot]
    ring
  rw [← sub_nonneg, hmissing]
  positivity

/-- Of two quaternions of norm one neither has more of the other than all of it. -/
theorem abs_dot_le_one (hq : q.dot q = 1) (hr : r.dot r = 1) : |q.dot r| ≤ 1 := by
  have hle := dot_mul_dot_le q r
  rw [hq, hr, mul_one] at hle
  exact abs_le_one_iff_mul_self_le_one.2 hle

omit [IsStrictOrderedRing K] in
/-- What faces a quaternion is the other one or its negative. -/
theorem facing_cases (q r : Quaternion K) : q.facing r = r ∨ q.facing r = r.neg := by
  unfold facing
  split
  · exact .inr rfl
  · exact .inl rfl

/-- **What faces a quaternion lies on its side.** -/
theorem dot_facing (q r : Quaternion K) : q.dot (q.facing r) = |q.dot r| := by
  unfold facing
  split
  · rename_i hlt
    rw [dot_neg, abs_of_neg hlt]
  · rename_i hge
    rw [abs_of_nonneg (not_lt.1 hge)]

omit [IsStrictOrderedRing K] in
/-- Facing keeps the norm. -/
theorem facing_dot_facing (q r : Quaternion K) : (q.facing r).dot (q.facing r) = r.dot r := by
  rcases q.facing_cases r with h | h
  · rw [h]
  · rw [h, neg_dot_neg]

/-- Of a quaternion and its negative the same one faces `q`, if either does. -/
theorem facing_neg (h : q.dot r ≠ 0) : q.facing r.neg = q.facing r := by
  unfold facing
  rw [dot_neg, neg_twice]
  rcases lt_or_gt_of_ne h with hlt | hgt
  · rw [if_neg (by linarith), if_pos hlt]
  · rw [if_pos (by linarith), if_neg (by linarith)]

/-- On the other side the negative faces. -/
theorem neg_facing (h : q.dot r ≠ 0) : q.neg.facing r = (q.facing r).neg := by
  unfold facing
  rw [neg_dot]
  rcases lt_or_gt_of_ne h with hlt | hgt
  · rw [if_neg (by linarith), if_pos hlt, neg_twice]
  · rw [if_pos (by linarith), if_neg (by linarith)]

/-! ## The weighted sum -/

omit [IsStrictOrderedRing K] in
/-- Without weight on the second quaternion the blend is the first one. -/
theorem blend_zero (q r : Quaternion K) : q.blend r 0 = q := by
  ext <;> simp [blend]

omit [IsStrictOrderedRing K] in
/-- With all weight on the second one the blend is what faces the first. -/
theorem blend_one (q r : Quaternion K) : q.blend r 1 = q.facing r := by
  ext <;> simp [blend]

/-- The sign of the second quaternion makes no difference to the blend. -/
theorem blend_neg (h : q.dot r ≠ 0) (weight : K) : q.blend r.neg weight = q.blend r weight := by
  simp only [blend, facing_neg h]

/-- The sign of the first one is that of the blend. -/
theorem neg_blend (h : q.dot r ≠ 0) (weight : K) :
    q.neg.blend r weight = (q.blend r weight).neg := by
  simp only [blend, neg_facing h]
  ext <;> simp only [neg] <;> ring

/-- How much of `q` there is in a blend. -/
theorem dot_blend (q r : Quaternion K) (weight : K) :
    q.dot (q.blend r weight) = (1 - weight) * q.dot q + weight * |q.dot r| := by
  rw [← dot_facing]
  simp only [dot, blend]
  ring

/-- The squared norm of a blend. -/
theorem blend_dot_blend (q r : Quaternion K) (weight : K) :
    (q.blend r weight).dot (q.blend r weight) = (1 - weight) ^ 2 * q.dot q +
      2 * (weight * (1 - weight)) * |q.dot r| + weight ^ 2 * r.dot r := by
  rw [← dot_facing, ← facing_dot_facing q r]
  simp only [dot, blend]
  ring

variable (hq : q.dot q = 1) (hr : r.dot r = 1) (hlow : 0 ≤ weight) (hhigh : weight ≤ 1)

include hq hr hlow hhigh

/-- **The parts of a blend do not cancel out.** -/
theorem half_le_blend : 1 / 2 ≤ (q.blend r weight).dot (q.blend r weight) := by
  rw [blend_dot_blend, hq, hr]
  have hside : 0 ≤ 2 * (weight * (1 - weight)) * |q.dot r| :=
    mul_nonneg (mul_nonneg zero_le_two (mul_nonneg hlow (sub_nonneg.2 hhigh))) (abs_nonneg _)
  calc 1 / 2 ≤ 1 / 2 + 2 * (weight - 1 / 2) ^ 2 := le_add_of_nonneg_right (by positivity)
    _ = (1 - weight) ^ 2 + weight ^ 2 := by ring
    _ ≤ (1 - weight) ^ 2 * 1 + 2 * (weight * (1 - weight)) * |q.dot r| + weight ^ 2 * 1 := by
      linarith only [hside]

/-- The squares of a blend add up to one at most. -/
theorem blend_le_one : (q.blend r weight).dot (q.blend r weight) ≤ 1 := by
  rw [blend_dot_blend, hq, hr]
  have hside : 2 * (weight * (1 - weight)) * |q.dot r| ≤ 2 * (weight * (1 - weight)) :=
    mul_le_of_le_one_right (mul_nonneg zero_le_two (mul_nonneg hlow (sub_nonneg.2 hhigh)))
      (abs_dot_le_one hq hr)
  calc (1 - weight) ^ 2 * 1 + 2 * (weight * (1 - weight)) * |q.dot r| + weight ^ 2 * 1
      ≤ (1 - weight) ^ 2 + 2 * (weight * (1 - weight)) + weight ^ 2 := by linarith only [hside]
    _ = 1 := by ring

omit hr in
/-- A blend lies on the side of `q`. -/
theorem dot_blend_nonneg : 0 ≤ q.dot (q.blend r weight) := by
  rw [dot_blend, hq]
  exact add_nonneg (mul_nonneg (sub_nonneg.2 hhigh) zero_le_one)
    (mul_nonneg hlow (abs_nonneg _))

end Field

/-! ## Scaled to norm one -/

variable {q r : Quaternion ℝ} {weight : ℝ}

/-- A quaternion that is not far from norm one can be scaled to it. -/
theorem usable_norm_of_half_le (h : 1 / 2 ≤ q.dot q) : RootScalar.usable q.norm = true := by
  refine decide_eq_true ?_
  change Single.value ℝ singleEpsilon < √(q.dot q)
  rw [Single.value_singleEpsilon]
  refine Real.lt_sqrt_of_sq_lt (lt_of_lt_of_le ?_ h)
  norm_num

/-- Scaling divides by the norm where that is far enough from nought. -/
theorem normalized_eq (h : RootScalar.usable q.norm = true) :
    q.normalized = ⟨q.w / q.norm, q.x / q.norm, q.y / q.norm, q.z / q.norm⟩ := if_pos h

/-- A quaternion and its negative have the same norm. -/
theorem norm_neg (q : Quaternion ℝ) : q.neg.norm = q.norm := by
  rw [norm, neg_dot_neg, norm]

/-- Scaling keeps the sign. -/
theorem normalized_neg (h : RootScalar.usable q.norm = true) :
    q.neg.normalized = q.normalized.neg := by
  rw [normalized_eq h, normalized_eq (by rwa [norm_neg]), norm_neg]
  ext <;> simp only [neg] <;> ring

/-- What has norm one is scaled already. -/
theorem normalized_of_dot_self (h : q.dot q = 1) : q.normalized = q := by
  have hnorm : q.norm = 1 := by
    change √(q.dot q) = 1
    rw [h, Real.sqrt_one]
  rw [normalized_eq (usable_norm_of_half_le (by rw [h]; norm_num)), hnorm]
  ext <;> simp only [div_one]

/-- Scaling leaves a quaternion on its side. -/
theorem dot_normalized_nonneg (h : RootScalar.usable r.norm = true) (hside : 0 ≤ q.dot r) :
    0 ≤ q.dot r.normalized := by
  have hscaled : q.dot r.normalized = q.dot r / r.norm := by
    rw [normalized_eq h]
    simp only [dot]
    ring
  rw [hscaled]
  exact div_nonneg hside (Real.sqrt_nonneg _)

/-- What a rotation between two others is like. -/
structure IsSteady (q r : Quaternion ℝ) (weight : ℝ) : Prop where
  /-- The weighted sum does not cancel out. -/
  half_le : 1 / 2 ≤ (q.blend r weight).dot (q.blend r weight)
  /-- Nor does it grow. -/
  le_one : (q.blend r weight).dot (q.blend r weight) ≤ 1
  /-- So it can be scaled, and the identity never takes its place. -/
  usable : RootScalar.usable (q.blend r weight).norm = true
  /-- Scaled, it has norm one. -/
  unit : (q.nlerp r weight).dot (q.nlerp r weight) = 1
  /-- It lies on the side of the first rotation. -/
  side : 0 ≤ q.dot (q.nlerp r weight)
  /-- It starts at the first rotation. -/
  start : q.nlerp r 0 = q
  /-- It ends at the second one, or at its negative. -/
  finish : q.nlerp r 1 = r ∨ q.nlerp r 1 = r.neg
  /-- The sign of the second quaternion makes no difference, unless it lies on neither side. -/
  neg_right : q.dot r ≠ 0 → q.nlerp r.neg weight = q.nlerp r weight
  /-- The sign of the first one is the sign of the blend. -/
  neg_left : q.dot r ≠ 0 → q.neg.nlerp r weight = (q.nlerp r weight).neg
  /-- So the blend is the same rotation, whichever quaternions stand for the two others. -/
  rotate_eq : q.dot r ≠ 0 → ∀ q' r' : Quaternion ℝ, q' = q ∨ q' = q.neg → r' = r ∨ r' = r.neg →
    ∀ v, (q'.nlerp r' weight).rotate v = (q.nlerp r weight).rotate v

/-- **A blend of rotations is steady**: it never degenerates on the way from one to the other, and
it is a blend of rotations, not of the quaternions that stand for them. -/
theorem nlerp_isSteady (hq : q.dot q = 1) (hr : r.dot r = 1) (hlow : 0 ≤ weight)
    (hhigh : weight ≤ 1) : IsSteady q r weight := by
  have husable : RootScalar.usable (q.blend r weight).norm = true :=
    usable_norm_of_half_le (half_le_blend hq hr hlow hhigh)
  have hright : q.dot r ≠ 0 → q.nlerp r.neg weight = q.nlerp r weight := fun h => by
    rw [nlerp, blend_neg h, nlerp]
  have hleft : q.dot r ≠ 0 → q.neg.nlerp r weight = (q.nlerp r weight).neg := fun h => by
    rw [nlerp, neg_blend h, normalized_neg husable, nlerp]
  have hfinish : q.nlerp r 1 = q.facing r := by
    rw [nlerp, blend_one, normalized_of_dot_self ((facing_dot_facing q r).trans hr)]
  exact
    { half_le := half_le_blend hq hr hlow hhigh
      le_one := blend_le_one hq hr hlow hhigh
      usable := husable
      unit := normalized_dot_self _
      side := dot_normalized_nonneg husable (dot_blend_nonneg hq hlow hhigh)
      start := by rw [nlerp, blend_zero, normalized_of_dot_self hq]
      finish := by
        rw [hfinish]
        exact q.facing_cases r
      neg_right := hright
      neg_left := hleft
      rotate_eq := by
        intro h q' r' hq' hr' v
        -- The second quaternion goes first: its sign never matters, whichever the first one has.
        have hsecond : q'.nlerp r' weight = q'.nlerp r weight := by
          rcases hr' with rfl | rfl
          · rfl
          · rcases hq' with rfl | rfl
            · exact hright h
            · have hne : q.neg.dot r ≠ 0 := by
                rw [neg_dot]
                exact neg_ne_zero.2 h
              rw [nlerp, blend_neg hne, nlerp]
        rw [hsecond]
        rcases hq' with rfl | rfl
        · rfl
        · rw [hleft h, neg_rotate] }

/-- A rotation and one whose quaternion lies on the other side, half-way. -/
theorem isSteady_opposite :
    (identity : Quaternion ℝ).dot identity = 1 ∧
      (⟨-3 / 5, 4 / 5, 0, 0⟩ : Quaternion ℝ).dot ⟨-3 / 5, 4 / 5, 0, 0⟩ = 1 ∧
      (0 : ℝ) ≤ 1 / 2 ∧ (1 / 2 : ℝ) ≤ 1 ∧
      IsSteady identity ⟨-3 / 5, 4 / 5, 0, 0⟩ (1 / 2) ∧
      (identity.blend ⟨-3 / 5, 4 / 5, 0, 0⟩ (1 / 2) : Quaternion ℝ) = ⟨4 / 5, -2 / 5, 0, 0⟩ := by
  have hfirst : (identity : Quaternion ℝ).dot identity = 1 := by
    norm_num [identity, dot]
  have hsecond : (⟨-3 / 5, 4 / 5, 0, 0⟩ : Quaternion ℝ).dot ⟨-3 / 5, 4 / 5, 0, 0⟩ = 1 := by
    norm_num [dot]
  have hlow : (0 : ℝ) ≤ 1 / 2 := by norm_num
  have hhigh : (1 / 2 : ℝ) ≤ 1 := by norm_num
  refine ⟨hfirst, hsecond, hlow, hhigh, nlerp_isSteady hfirst hsecond hlow hhigh, ?_⟩
  norm_num [blend, facing, identity, dot, neg]

end CollisionWatch.Quaternion
