import CollisionWatch.Bus.Basic
import CollisionWatch.FrameTree.Resolve
import CollisionWatch.Notice
import CollisionWatch.Risk.Streak
import CollisionWatch.Risk.Zone
import CollisionWatch.Text.Blank

/-!
# The sentinel

A sentinel judges the clouds of a sensor one after the other.  It takes a cloud into the vehicle's
frame, decides whether the cloud is risky, debounces the decision over the clouds before it, and
publishes one verdict.  A cloud that cannot be taken into the vehicle's frame is given up: it gets no
verdict, and neither extends nor ends a streak.  A verdict that reaches nobody still counts.

When clouds were lost on the way, the ones on either side of the gap do not follow each other, so
`discardStreak` starts the count anew.
-/

namespace CollisionWatch

/-- Running totals of a sentinel.  Most of them grow by one at a time and never fill their words;
`lost` grows by what it is told. -/
structure Stats where
  /-- Clouds that got a verdict. -/
  evaluated : UInt64 := 0
  /-- Clouds given up because no motion takes them into the vehicle's frame. -/
  unresolved : UInt64 := 0
  /-- Verdicts that reached nobody. -/
  undelivered : UInt64 := 0
  /-- Verdicts that announce a collision. -/
  collisions : UInt64 := 0
  /-- Clouds that were lost before they got here. -/
  lost : UInt64 := 0
  deriving Repr, DecidableEq

/-- The judge of one sensor's clouds. -/
structure Sentinel where
  /-- The frame of the vehicle. -/
  vehicle : String
  /-- What counts as danger. -/
  thresholds : Thresholds
  /-- The frames of the sensors. -/
  tree : FrameTree (Pose Float32)
  /-- The risky clouds in a row. -/
  streak : Streak
  /-- The totals. -/
  stats : Stats := {}

namespace Sentinel

/-- The publisher's name in a sentinel's events. -/
def source : String := "guardian-runtime::collision_guardian"

/-- A new sentinel, if the thresholds make sense and the vehicle's frame has a name. -/
def create (thresholds : Thresholds) (vehicle : String) (tree : FrameTree (Pose Float32)) :
    Except Fault Sentinel := do
  thresholds.validate
  if Text.isBlankText vehicle.toList then
    throw (.invalidConfiguration "vehicle_frame_id must not be empty")
  return { vehicle, thresholds, tree, streak := { threshold := thresholds.minFrames } }

/-- A sentinel and the bus after something was done, what came of it, and the notices. -/
structure Outcome where
  /-- What came of it. -/
  result : Except Fault Verdict
  /-- The sentinel afterwards. -/
  sentinel : Sentinel
  /-- The bus afterwards. -/
  bus : Bus
  /-- The notices. -/
  notices : List Notice

/-- Give a cloud up. -/
def giveUp (s : Sentinel) (fault : Fault) (bus : Bus) (notice : Notice) : Outcome where
  result := .error fault
  sentinel := { s with stats := { s.stats with unresolved := s.stats.unresolved + 1 } }
  bus := bus
  notices := [notice]

/-- The sentinel after a decision on a cloud. -/
def decide (s : Sentinel) (risky : Bool) : Sentinel :=
  let streak := s.streak.record risky
  { s with
    streak
    stats := { s.stats with
      evaluated := s.stats.evaluated + 1
      collisions := if streak.isPersistent then s.stats.collisions + 1 else s.stats.collisions } }

/-- Publish the verdict that the streak makes. One stamp dates the verdict and the event that
carries it. A watch reads its clock for each of them, and may find the event a little later;
nothing compares the two readings. -/
def announce (s : Sentinel) (bus : Bus) (stamp : Stamp) : Outcome :=
  let collision := s.streak.isPersistent
  let verdict : Verdict := ⟨stamp.instant.toSeconds, collision⟩
  let alarm : List Notice := if collision then [.riskPersistent] else []
  match bus.publish .collisionWarning ⟨stamp, source, .verdict verdict⟩ with
  | (.ok _, bus) => { result := .ok verdict, sentinel := s, bus, notices := alarm }
  | (.error _, bus) =>
    { result := .ok verdict
      sentinel := { s with stats := { s.stats with undelivered := s.stats.undelivered + 1 } }
      bus
      notices := alarm ++ [.verdictNotDelivered] }

/-- Judge one cloud. -/
def process (s : Sentinel) (cloud : Cloud) (bus : Bus) (stamp : Stamp) : Except Crash Outcome := do
  if !cloud.time.isFinite then
    return s.giveUp (.unresolved cloud.time s.vehicle cloud.frame) bus .captureTimeInvalid
  match ← s.tree.resolve cloud.time s.vehicle cloud.frame with
  | .error fault => return s.giveUp fault bus .transformMissing
  | .ok pose => return (s.decide (s.thresholds.isRisky cloud pose)).announce bus stamp

/-- Forget the streak because `lost` clouds never got here. -/
def discardStreak (s : Sentinel) (lost : UInt64) : Except Crash (Sentinel × List Notice) :=
  if UInt64.size ≤ s.stats.lost.toNat + lost.toNat then .error .totalOverflow
  else
    .ok ({ s with streak := s.streak.reset, stats := { s.stats with lost := s.stats.lost + lost } },
      if 0 < s.streak.count then [.streakDiscarded] else [])

end Sentinel

end CollisionWatch
