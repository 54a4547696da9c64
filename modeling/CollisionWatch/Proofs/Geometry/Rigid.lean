import CollisionWatch.Geometry.Pose
import Mathlib.Algebra.Group.MinimalAxioms
import Mathlib.Tactic.LinearCombination
import Mathlib.Tactic.Ring

/-!
# Rigid poses in exact arithmetic

Over the scalars of a commutative ring the formulas of quaternions and poses obey the laws that
single-precision floats obey only roughly. A product of quaternions rotates by one after the other,
whatever their norms (`Quaternion.rotate_mul`), because what is carried around by a quaternion never
gets a real part (`Quaternion.sandwich_eq`). A quaternion of norm one is undone by its conjugate, so
the poses with such a rotation are a group: composing is the product and the inverse is the inverse
(`RigidPose`). All laws of poses together are `Pose.Lawful`.
-/

namespace CollisionWatch

attribute [ext] Vector3 Quaternion Pose

variable {K : Type} [CommRing K]

namespace Quaternion

/-! ## Products -/

/-- Products can be regrouped. -/
theorem mul_mul (p q r : Quaternion K) : (p.mul q).mul r = p.mul (q.mul r) := by
  ext <;> simp only [mul] <;> ring

/-- The identity changes no product. -/
@[simp] theorem identity_mul (q : Quaternion K) : identity.mul q = q := by
  ext <;> simp [mul, identity]

/-- The norm of a product is the product of the norms. -/
theorem dot_mul (q r : Quaternion K) : (q.mul r).dot (q.mul r) = q.dot q * r.dot r := by
  simp only [dot, mul]
  ring

/-- A conjugate has the same norm. -/
@[simp] theorem dot_conjugate (q : Quaternion K) : q.conjugate.dot q.conjugate = q.dot q := by
  simp only [dot, conjugate]
  ring

/-- The conjugate of a product is the product of the conjugates, the other way round. -/
theorem conjugate_mul (q r : Quaternion K) :
    (q.mul r).conjugate = r.conjugate.mul q.conjugate := by
  ext <;> simp only [mul, conjugate] <;> ring

/-- A quaternion of norm one is undone by its conjugate. -/
theorem conjugate_mul_self {q : Quaternion K} (h : q.dot q = 1) : q.conjugate.mul q = identity := by
  simp only [dot] at h
  ext <;> simp only [mul, conjugate, identity]
  · linear_combination h
  · ring
  · ring
  · ring

/-! ## Rotations -/

/-- What a quaternion carries around is a vector again: its real part is nothing. -/
theorem sandwich_eq (q : Quaternion K) (v : Vector3 K) : q.sandwich v = ofVector (q.rotate v) := by
  ext
  · simp only [sandwich, mul, conjugate, ofVector]
    ring
  · rfl
  · rfl
  · rfl

/-- **A product rotates by one factor after the other.** -/
theorem rotate_mul (q r : Quaternion K) (v : Vector3 K) :
    (q.mul r).rotate v = q.rotate (r.rotate v) := by
  have hsandwich : (q.mul r).sandwich v = q.sandwich (r.rotate v) := by
    calc (q.mul r).sandwich v
        = ((q.mul r).mul (ofVector v)).mul (r.conjugate.mul q.conjugate) := by
          rw [sandwich, conjugate_mul]
      _ = (q.mul ((r.mul (ofVector v)).mul r.conjugate)).mul q.conjugate := by
          simp only [mul_mul]
      _ = (q.mul (ofVector (r.rotate v))).mul q.conjugate := by
          rw [← sandwich_eq, sandwich]
  unfold rotate
  rw [hsandwich]
  rfl

/-- The identity leaves every vector as it is. -/
@[simp] theorem identity_rotate (v : Vector3 K) : identity.rotate v = v := by
  ext <;> simp [rotate, sandwich, mul, identity, conjugate, ofVector]

/-- Rotations respect sums. -/
theorem rotate_add (q : Quaternion K) (v w : Vector3 K) :
    q.rotate (v.add w) = (q.rotate v).add (q.rotate w) := by
  ext <;> simp only [rotate, sandwich, mul, conjugate, ofVector, Vector3.add] <;> ring

end Quaternion

namespace Pose

/-! ## Poses -/

/-- Poses can be regrouped. -/
theorem compose_compose (p q r : Pose K) :
    (p.compose q).compose r = p.compose (q.compose r) := by
  ext1
  · simp only [compose, Quaternion.rotate_mul, Quaternion.rotate_add]
    ext <;> simp only [Vector3.add] <;> ring
  · exact Quaternion.mul_mul _ _ _

/-- The pose without motion adds nothing to another one. -/
@[simp] theorem identity_compose (p : Pose K) : identity.compose p = p := by
  ext1
  · ext <;> simp [compose, identity, Vector3.add, Vector3.zero]
  · exact Quaternion.identity_mul _

/-- A point goes through one pose after the other. -/
theorem apply_compose (p q : Pose K) (v : Vector3 K) :
    (p.compose q).apply v = p.apply (q.apply v) := by
  simp only [apply, compose, Quaternion.rotate_mul, Quaternion.rotate_add]
  ext <;> simp only [Vector3.add] <;> ring

/-- The identity leaves every point where it is. -/
@[simp] theorem identity_apply (v : Vector3 K) : identity.apply v = v := by
  ext <;> simp [apply, identity, Vector3.add, Vector3.zero]

/-- A rigid pose has a rotation of norm one. -/
def IsRigid (p : Pose K) : Prop := p.rotation.dot p.rotation = 1

/-- The identity is rigid. -/
theorem isRigid_identity : (identity : Pose K).IsRigid := by
  simp [IsRigid, identity, Quaternion.identity, Quaternion.dot]

/-- One rigid pose after the other is a rigid pose. -/
theorem IsRigid.compose {p q : Pose K} (hp : p.IsRigid) (hq : q.IsRigid) :
    (p.compose q).IsRigid := by
  unfold IsRigid at *
  rw [Pose.compose, Quaternion.dot_mul, hp, hq, mul_one]

/-- The inverse of a rigid pose is rigid. -/
theorem IsRigid.inverse {p : Pose K} (hp : p.IsRigid) : p.inverse.IsRigid := by
  unfold IsRigid at *
  rw [Pose.inverse, Quaternion.dot_conjugate, hp]

/-- A rigid pose is undone by its inverse. -/
theorem IsRigid.inverse_compose {p : Pose K} (hp : p.IsRigid) : p.inverse.compose p = identity := by
  ext1
  · ext <;> simp [Pose.compose, Pose.inverse, identity, Vector3.add, Vector3.scale, Vector3.zero]
  · exact Quaternion.conjugate_mul_self hp

end Pose

/-- A pose with a rotation of norm one. -/
@[ext]
structure RigidPose (K : Type) [CommRing K] where
  /-- The pose. -/
  pose : Pose K
  /-- Its rotation has norm one. -/
  isRigid : pose.IsRigid

namespace RigidPose

/-- The product is one pose after the other. -/
instance : Mul (RigidPose K) := ⟨fun p q => ⟨p.pose.compose q.pose, p.isRigid.compose q.isRigid⟩⟩

/-- The unit is the pose without motion. -/
instance : One (RigidPose K) := ⟨⟨.identity, Pose.isRigid_identity⟩⟩

/-- The inverse is that of the pose. -/
instance : Inv (RigidPose K) := ⟨fun p => ⟨p.pose.inverse, p.isRigid.inverse⟩⟩

/-- The pose of a product is composed of theirs. -/
@[simp] theorem pose_mul (p q : RigidPose K) : (p * q).pose = p.pose.compose q.pose := rfl

/-- The pose of the unit is the identity. -/
@[simp] theorem pose_one : (1 : RigidPose K).pose = .identity := rfl

/-- The pose of an inverse is the inverse pose. -/
@[simp] theorem pose_inv (p : RigidPose K) : p⁻¹.pose = p.pose.inverse := rfl

/-- **Rigid poses are a group.** -/
instance : Group (RigidPose K) :=
  Group.ofLeftAxioms
    (fun p q r => RigidPose.ext (Pose.compose_compose p.pose q.pose r.pose))
    (fun p => RigidPose.ext p.pose.identity_compose)
    (fun p => RigidPose.ext p.isRigid.inverse_compose)

end RigidPose

namespace Pose

/-! ## The laws of poses -/

variable {p q : Pose K}

/-- The inverse of a rigid pose is undone by the pose. -/
theorem IsRigid.compose_inverse (hp : p.IsRigid) : p.compose p.inverse = identity :=
  congrArg RigidPose.pose (mul_inv_cancel (⟨p, hp⟩ : RigidPose K))

/-- A rigid pose is the inverse of its inverse. -/
theorem IsRigid.inverse_inverse (hp : p.IsRigid) : p.inverse.inverse = p :=
  congrArg RigidPose.pose (inv_inv (⟨p, hp⟩ : RigidPose K))

/-- Rigid poses are undone in the opposite order. -/
theorem IsRigid.inverse_of_compose (hp : p.IsRigid) (hq : q.IsRigid) :
    (p.compose q).inverse = q.inverse.compose p.inverse :=
  congrArg RigidPose.pose (mul_inv_rev (⟨p, hp⟩ : RigidPose K) ⟨q, hq⟩)

/-- A point that goes through a rigid pose comes back through its inverse. -/
theorem IsRigid.inverse_apply_apply (hp : p.IsRigid) (v : Vector3 K) :
    p.inverse.apply (p.apply v) = v := by
  rw [← apply_compose, hp.inverse_compose, identity_apply]

variable (K) in
/-- What poses over these scalars obey: some of it whatever their rotations are, and the rest if
these have norm one. -/
structure Lawful : Prop where
  /-- A point goes through one pose after the other. -/
  compose_apply : ∀ (p q : Pose K) (v : Vector3 K), (p.compose q).apply v = p.apply (q.apply v)
  /-- Poses can be regrouped. -/
  regroup : ∀ p q r : Pose K, (p.compose q).compose r = p.compose (q.compose r)
  /-- What a quaternion carries around has no real part. -/
  real_part : ∀ (q : Quaternion K) (v : Vector3 K), (q.sandwich v).w = 0
  /-- A rigid pose is undone by its inverse. -/
  undone : ∀ p : Pose K, p.IsRigid → p.inverse.compose p = identity
  /-- And the other way round. -/
  undoes : ∀ p : Pose K, p.IsRigid → p.compose p.inverse = identity
  /-- A rigid pose is the inverse of its inverse. -/
  twice : ∀ p : Pose K, p.IsRigid → p.inverse.inverse = p
  /-- Rigid poses are undone in the opposite order. -/
  reversed : ∀ p q : Pose K, p.IsRigid → q.IsRigid →
    (p.compose q).inverse = q.inverse.compose p.inverse
  /-- A point that goes through a rigid pose comes back through its inverse. -/
  back : ∀ (p : Pose K) (v : Vector3 K), p.IsRigid → p.inverse.apply (p.apply v) = v

/-- **Poses are lawful over every commutative ring.** -/
theorem lawful : Lawful K where
  compose_apply := apply_compose
  regroup := compose_compose
  real_part q v := by
    rw [Quaternion.sandwich_eq]
    rfl
  undone _ hp := hp.inverse_compose
  undoes _ hp := hp.compose_inverse
  twice _ hp := hp.inverse_inverse
  reversed _ _ hp hq := hp.inverse_of_compose hq
  back _ v hp := hp.inverse_apply_apply v

/-- A displaced frame whose axes have changed places. -/
def tumbled : Pose ℚ := ⟨⟨1, -2, 5⟩, ⟨1 / 2, 1 / 2, 1 / 2, 1 / 2⟩⟩

/-- A point that has tumbled with the frame comes back, and so does the frame after tumbling twice.
-/
theorem lawful_tumbled :
    tumbled.IsRigid ∧ tumbled.apply ⟨1, 0, 0⟩ = ⟨1, -1, 5⟩ ∧
      tumbled.inverse.apply ⟨1, -1, 5⟩ = ⟨1, 0, 0⟩ ∧
      (tumbled.compose tumbled).inverse = tumbled.inverse.compose tumbled.inverse := by
  have hrigid : tumbled.IsRigid := by
    norm_num [IsRigid, tumbled, Quaternion.dot]
  have happly : tumbled.apply ⟨1, 0, 0⟩ = ⟨1, -1, 5⟩ := by
    norm_num [tumbled, apply, Quaternion.rotate, Quaternion.sandwich, Quaternion.mul,
      Quaternion.ofVector, Quaternion.conjugate, Vector3.add]
  have hback := lawful.back tumbled ⟨1, 0, 0⟩ hrigid
  rw [happly] at hback
  exact ⟨hrigid, happly, hback, lawful.reversed tumbled tumbled hrigid hrigid⟩

end Pose

end CollisionWatch
