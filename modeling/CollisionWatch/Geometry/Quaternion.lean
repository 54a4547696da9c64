import CollisionWatch.Geometry.Vector3

/-!
# Rotations as quaternions

A rotation is a quaternion of norm one, real part first.  The formulas make sense over any scalars;
what needs square roots and comparisons (`normalized`, `nlerp`) asks for them as `RootScalar`.
-/

namespace CollisionWatch

/-- Scalars with a square root and a judgement about divisors. -/
class RootScalar (α : Type) where
  /-- The square root. -/
  sqrt : α → α
  /-- A quaternion of this norm can be scaled to norm one. -/
  usable : α → Bool

/-- The gap between one and the next single-precision float, `2 ^ -23`. -/
def singleEpsilon : Float32 := Float32.ofBits 0x34000000

/-- Norms up to the gap after one, and norms that are no numbers, cannot be divided by. -/
instance : RootScalar Float32 where
  sqrt := Float32.sqrt
  usable norm := !(norm ≤ singleEpsilon) && norm.isFinite

/-- A quaternion, real part first. -/
structure Quaternion (α : Type) where
  /-- The real part. -/
  w : α
  /-- The part along the lateral axis. -/
  x : α
  /-- The part along the forward axis. -/
  y : α
  /-- The part along the height. -/
  z : α
  deriving Repr, DecidableEq

namespace Quaternion

variable {α : Type}

/-- No rotation. -/
def identity [OfNat α 0] [OfNat α 1] : Quaternion α := ⟨1, 0, 0, 0⟩

/-- The sum of the products of the parts. -/
def dot [Add α] [Mul α] (q r : Quaternion α) : α := q.w * r.w + q.x * r.x + q.y * r.y + q.z * r.z

/-- The product: `r` first, then `q`. -/
def mul [Add α] [Sub α] [Mul α] (q r : Quaternion α) : Quaternion α where
  w := q.w * r.w - q.x * r.x - q.y * r.y - q.z * r.z
  x := q.w * r.x + q.x * r.w + q.y * r.z - q.z * r.y
  y := q.w * r.y - q.x * r.z + q.y * r.w + q.z * r.x
  z := q.w * r.z + q.x * r.y - q.y * r.x + q.z * r.w

/-- The opposite rotation, for a quaternion of norm one. -/
def conjugate [Neg α] (q : Quaternion α) : Quaternion α := ⟨q.w, -q.x, -q.y, -q.z⟩

/-- All parts negated: the same rotation. -/
def neg [Neg α] (q : Quaternion α) : Quaternion α := ⟨-q.w, -q.x, -q.y, -q.z⟩

/-- A vector as a quaternion without real part. -/
def ofVector [OfNat α 0] (v : Vector3 α) : Quaternion α := ⟨0, v.x, v.y, v.z⟩

/-- The product that carries a vector around: `q v q*`. -/
def sandwich [Add α] [Sub α] [Mul α] [Neg α] [OfNat α 0] (q : Quaternion α) (v : Vector3 α) :
    Quaternion α :=
  (q.mul (ofVector v)).mul q.conjugate

/-- The rotated vector. -/
def rotate [Add α] [Sub α] [Mul α] [Neg α] [OfNat α 0] (q : Quaternion α) (v : Vector3 α) :
    Vector3 α :=
  let r := q.sandwich v
  ⟨r.x, r.y, r.z⟩

/-- The norm. -/
def norm [Add α] [Mul α] [RootScalar α] (q : Quaternion α) : α := RootScalar.sqrt (q.dot q)

/-- Scaled to norm one; no rotation if the norm is not usable. -/
def normalized [Add α] [Mul α] [Div α] [OfNat α 0] [OfNat α 1] [RootScalar α] (q : Quaternion α) :
    Quaternion α :=
  let n := q.norm
  if RootScalar.usable n then ⟨q.w / n, q.x / n, q.y / n, q.z / n⟩ else identity

/-- `r` or its negative, whichever lies on the side of `q`. -/
def facing [Add α] [Mul α] [Neg α] [LT α] [DecidableLT α] [OfNat α 0] (q r : Quaternion α) :
    Quaternion α :=
  if q.dot r < 0 then r.neg else r

/-- The weighted sum of `q` and `r`, along the shorter arc. -/
def blend [Add α] [Sub α] [Mul α] [Neg α] [LT α] [DecidableLT α] [OfNat α 0] [OfNat α 1]
    (q r : Quaternion α) (weight : α) : Quaternion α :=
  let s := q.facing r
  let rest := 1 - weight
  ⟨q.w * rest + s.w * weight, q.x * rest + s.x * weight, q.y * rest + s.y * weight,
    q.z * rest + s.z * weight⟩

/-- The rotation between `q` and `r` at `weight`. -/
def nlerp [Add α] [Sub α] [Mul α] [Div α] [Neg α] [LT α] [DecidableLT α] [OfNat α 0] [OfNat α 1]
    [RootScalar α] (q r : Quaternion α) (weight : α) : Quaternion α :=
  (q.blend r weight).normalized

/-- The rotation by an angle about the height. -/
def ofYaw (angle : Float32) : Quaternion Float32 :=
  let half := angle * 0.5
  ⟨half.cos, 0, 0, half.sin⟩

end Quaternion

end CollisionWatch
