import CollisionWatch.Decimal.Precision
import CollisionWatch.Geometry.Pose

/-!
# Recorded motions

A sample is a motion with the time it was recorded at.  For a time between the stamps of two samples
the motion is blended from theirs; a sample may also stand in for a time not too far from its own.

`boundary` is the search for a place among samples in the order of their stamps.
-/

namespace CollisionWatch

/-- The gap between one and the next double, `2 ^ -52`. -/
def doubleEpsilon : Float := Float.ofBits 0x3CB0000000000000

/-- Where the items that satisfy `p` end, in a list that starts with them: a binary search that
drops the lower half when the item in the middle satisfies `p`, and keeps it otherwise. -/
def boundary {α : Type} (p : α → Bool) : List α → Nat
  | [] => 0
  | [x] => if p x then 1 else 0
  | x :: y :: rest =>
    let xs := x :: y :: rest
    let half := xs.length / 2
    if (xs[half]?).any p then half + boundary p (xs.drop half)
    else boundary p (xs.take (xs.length - half))
termination_by xs => xs.length
decreasing_by all_goals simp only [List.length_drop, List.length_take, List.length_cons]; omega

/-- A motion recorded at a time. -/
structure Sample (T : Type) where
  /-- When the motion was recorded, in seconds. -/
  stamp : Float
  /-- The motion. -/
  motion : T

namespace Sample

variable {T : Type}

/-- The motion at a time between the stamps of two samples. -/
def between [Motion T] (before after : Sample T) (time : Float) : T :=
  let span := after.stamp - before.stamp
  if span ≤ doubleEpsilon then after.motion
  else Motion.blend before.motion after.motion (Decimal.narrow ((time - before.stamp) / span))

/-- The motion if the distance in time is within the tolerance. -/
def within (sample : Sample T) (distance tolerance : Float) : Option T :=
  if distance ≤ tolerance then some sample.motion else none

end Sample

end CollisionWatch
