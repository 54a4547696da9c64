/-!
# Vectors

A vector of three coordinates over any scalars.  A point of a sensor frame is a vector of
single-precision floats; the laws of motion are stated over exact scalars.  Every operation says in
which order its scalars meet, because floating sums depend on it.
-/

namespace CollisionWatch

/-- Three coordinates: `x` to the side, `y` forward, `z` up. -/
structure Vector3 (α : Type) where
  /-- The lateral coordinate. -/
  x : α
  /-- The forward coordinate. -/
  y : α
  /-- The height. -/
  z : α
  deriving Repr, DecidableEq

namespace Vector3

variable {α : Type}

/-- No displacement. -/
def zero [OfNat α 0] : Vector3 α := ⟨0, 0, 0⟩

/-- The sum, coordinate by coordinate. -/
def add [Add α] (v w : Vector3 α) : Vector3 α := ⟨v.x + w.x, v.y + w.y, v.z + w.z⟩

/-- Every coordinate times `k`. -/
def scale [Mul α] (v : Vector3 α) (k : α) : Vector3 α := ⟨v.x * k, v.y * k, v.z * k⟩

/-- The point between `v` and `w` at `weight`: `v` at zero, `w` at one. -/
def lerp [Add α] [Sub α] [Mul α] [OfNat α 1] (v w : Vector3 α) (weight : α) : Vector3 α :=
  (v.scale (1 - weight)).add (w.scale weight)

/-- All coordinates satisfy `p`. -/
def all (p : α → Bool) (v : Vector3 α) : Bool := p v.x && p v.y && p v.z

end Vector3

/-- A sensor return, in the coordinates of its frame. -/
abbrev Point := Vector3 Float32

/-- All coordinates are numbers. -/
def Point.isFinite (p : Point) : Bool := p.all Float32.isFinite

/-- A point is finite if all its coordinates are. -/
theorem Point.isFinite_iff (p : Point) :
    Point.isFinite p = true ↔ p.x.isFinite = true ∧ p.y.isFinite = true ∧ p.z.isFinite = true := by
  simp [Point.isFinite, Vector3.all, and_assoc]

end CollisionWatch
