import CollisionWatch.Geometry.Pose
import CollisionWatch.Event
import CollisionWatch.Risk.Thresholds

/-!
# Where a point lies, and when a cloud is risky

`zone` sorts a point of the vehicle's frame by the first filter that rejects it.  A cloud is risky
when enough of its points pass all filters; `isRisky` stops at the last point it needs, while
`countQualifying` looks at all of them.
-/

namespace CollisionWatch

/-- Where a point lies. -/
inductive Zone where
  /-- Nowhere: a coordinate is not a finite number. -/
  | invalid
  /-- Within the vehicle itself. -/
  | body
  /-- Below the lowest or above the highest height. -/
  | outsideHeights
  /-- Outside the region to protect. -/
  | outsideRegion
  /-- In danger. -/
  | qualifying
  deriving Repr, DecidableEq

namespace Thresholds

/-- Where a point of the vehicle's frame lies. -/
def zone (t : Thresholds) (p : Point) : Zone :=
  if !p.isFinite then .invalid
  else if p.y < t.body.forward ∧ -t.body.backward < p.y ∧ p.x.abs < t.body.side then .body
  else if p.z < t.heightMin ∨ t.heightMax < p.z then .outsideHeights
  else if t.region.forward < p.y ∨ p.y < -t.region.backward ∨ t.region.side < p.x.abs then
    .outsideRegion
  else .qualifying

/-- A point of a sensor's frame is a danger. -/
def qualifies (t : Thresholds) (pose : Pose Float32) (p : Point) : Bool :=
  p.isFinite && t.zone (pose.apply p) == .qualifying

/-- Among these points are enough dangerous ones, of which `found` were found before. -/
def isRiskyAfter (t : Thresholds) (pose : Pose Float32) (found : UInt32) : List Point → Bool
  | [] => false
  | p :: rest =>
    if t.qualifies pose p then
      if t.minPoints ≤ found + 1 then true else isRiskyAfter t pose (found + 1) rest
    else isRiskyAfter t pose found rest

/-- The cloud has enough dangerous points. -/
def isRisky (t : Thresholds) (cloud : Cloud) (pose : Pose Float32) : Bool :=
  t.isRiskyAfter pose 0 cloud.points

/-- The number of dangerous points of the cloud. -/
def countQualifying (t : Thresholds) (cloud : Cloud) (pose : Pose Float32) : Nat :=
  cloud.points.countP (t.qualifies pose)

end Thresholds

end CollisionWatch
