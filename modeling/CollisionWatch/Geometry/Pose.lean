import CollisionWatch.Geometry.Quaternion

/-!
# Poses

A pose places one frame in another: a point of the inner frame is rotated, then displaced.
`Motion` is the little that a tree of frames asks of the poses on its links.
-/

namespace CollisionWatch

/-- Motions between frames. -/
class Motion (T : Type) where
  /-- The motion of a frame to itself. -/
  identity : T
  /-- The motion from C to A, of the motions from B to A and from C to B. -/
  compose : T → T → T
  /-- The motion from A to B, of the one from B to A. -/
  inverse : T → T
  /-- The motion between two, at a weight from zero to one. -/
  blend : T → T → Float32 → T

/-- The place of one frame in another. -/
structure Pose (α : Type) where
  /-- The displacement of the origin. -/
  displacement : Vector3 α
  /-- The turn of the axes. -/
  rotation : Quaternion α
  deriving Repr, DecidableEq

namespace Pose

variable {α : Type}

/-- The frame itself. -/
def identity [OfNat α 0] [OfNat α 1] : Pose α := ⟨.zero, .identity⟩

/-- The place of C in A, of those of B in A and of C in B. -/
def compose [Add α] [Sub α] [Mul α] [Neg α] [OfNat α 0] (outer inner : Pose α) : Pose α where
  displacement := outer.displacement.add (outer.rotation.rotate inner.displacement)
  rotation := outer.rotation.mul inner.rotation

/-- The place of the outer frame in the inner one. -/
def inverse [Add α] [Sub α] [Mul α] [Neg α] [OfNat α 0] [OfNat α 1] (p : Pose α) : Pose α where
  displacement := (p.rotation.conjugate.rotate p.displacement).scale (-1)
  rotation := p.rotation.conjugate

/-- A point of the inner frame in the outer one. -/
def apply [Add α] [Sub α] [Mul α] [Neg α] [OfNat α 0] (p : Pose α) (v : Vector3 α) : Vector3 α :=
  (p.rotation.rotate v).add p.displacement

/-- The pose between two. -/
def blend [Add α] [Sub α] [Mul α] [Div α] [Neg α] [LT α] [DecidableLT α] [OfNat α 0] [OfNat α 1]
    [RootScalar α] (p q : Pose α) (weight : α) : Pose α where
  displacement := p.displacement.lerp q.displacement weight
  rotation := p.rotation.nlerp q.rotation weight

/-- Poses of single-precision floats are the motions of a sensor setup. -/
instance : Motion (Pose Float32) where
  identity := identity
  compose := compose
  inverse := inverse
  blend := blend

end Pose

end CollisionWatch
