import CollisionWatch.Decimal.Style
import CollisionWatch.Fault

/-!
# Thresholds of danger

`Thresholds` says where a point is dangerous and how many of them, over how many sweeps, make a
collision.  `defect?` finds the first reason why thresholds would be meaningless; thresholds without
a defect are the only ones that a sentinel accepts.
-/

namespace CollisionWatch

open Decimal (proseSingle)

/-- A box around the origin of the vehicle, by distances. -/
structure Extents where
  /-- How far it reaches forward. -/
  forward : Float32
  /-- How far it reaches backward. -/
  backward : Float32
  /-- How far it reaches to either side. -/
  side : Float32
  deriving Repr

/-- What counts as danger. -/
structure Thresholds where
  /-- The vehicle itself; points inside are no danger. -/
  body : Extents := ⟨2, 2, 1⟩
  /-- The region to protect. -/
  region : Extents := ⟨10, 2, 3⟩
  /-- Lower points are ground. -/
  heightMin : Float32 := 0.1
  /-- Higher points are overhead. -/
  heightMax : Float32 := 2.5
  /-- How many dangerous points make a risky cloud. -/
  minPoints : UInt32 := 5
  /-- How many risky clouds in a row make a collision. -/
  minFrames : UInt32 := 3
  deriving Repr

namespace Thresholds

/-- Why thresholds are meaningless. -/
inductive Defect where
  /-- An extent of a box is no distance. -/
  | noDistance (box extent : String) (value : Float32)
  /-- A bound of the heights is not finite. -/
  | unboundedHeights
  /-- The heights leave no room. -/
  | noHeights (low high : Float32)
  /-- The vehicle is as wide as the region around it. -/
  | noMargin (body region : Float32)
  /-- No point is needed for a risk. -/
  | noPoints
  /-- No risk is needed for a collision. -/
  | noFrames
  deriving Repr

/-- The defect in words. -/
def Defect.message : Defect → String
  | noDistance box extent value =>
    s!"{box}.{extent} must be a non-negative distance, got {proseSingle value}"
  | unboundedHeights => "height band bounds must be finite"
  | noHeights low high =>
    s!"height_min ({proseSingle low}) must be below height_max ({proseSingle high})"
  | noMargin body region =>
    s!"ego_box.side ({proseSingle body}) must be strictly inside roi.side ({proseSingle region})"
  | noPoints => "min_points_in_roi_to_trigger must be at least 1"
  | noFrames => "min_consecutive_frames_to_trigger must be at least 1"

/-- A finite number, zero or above. -/
def isDistance (x : Float32) : Bool := x.isFinite && !(x < 0)

/-- The first extent of a box that is no distance. -/
def boxDefect? (name : String) (box : Extents) : Option Defect :=
  if !isDistance box.forward then some (.noDistance name "forward" box.forward)
  else if !isDistance box.backward then some (.noDistance name "backward" box.backward)
  else if !isDistance box.side then some (.noDistance name "side" box.side)
  else none

/-- The first defect of the bounds between which points are dangerous. -/
def boundsDefect? (t : Thresholds) : Option Defect :=
  if !t.heightMin.isFinite || !t.heightMax.isFinite then some .unboundedHeights
  else if t.heightMax ≤ t.heightMin then some (.noHeights t.heightMin t.heightMax)
  else if t.region.side ≤ t.body.side then some (.noMargin t.body.side t.region.side)
  else none

/-- The first defect of the numbers of points and clouds. -/
def countsDefect? (t : Thresholds) : Option Defect :=
  if t.minPoints = 0 then some .noPoints
  else if t.minFrames = 0 then some .noFrames
  else none

/-- The first defect. -/
def defect? (t : Thresholds) : Option Defect :=
  (boxDefect? "ego_box" t.body).or <| (boxDefect? "roi" t.region).or <|
    t.boundsDefect?.or t.countsDefect?

/-- Thresholds without a defect pass. -/
def validate (t : Thresholds) : Except Fault Unit :=
  match t.defect? with
  | some defect => .error (.invalidConfiguration defect.message)
  | none => .ok ()

end Thresholds

end CollisionWatch
