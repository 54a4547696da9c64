import CollisionWatch.Duration
import CollisionWatch.FrameTree.Basic
import CollisionWatch.Risk.Thresholds
import CollisionWatch.Text.Blank
import CollisionWatch.Text.Quoted

/-!
# Settings

The settings of a watch: the vehicle's frame, the name under which warnings are shown, how often the
monitor looks, what counts as danger, and where the sensors are mounted.  `defect?` finds the first
reason why a watch cannot start with them.
-/

namespace CollisionWatch

open Decimal (proseDouble)

/-- The place of a sensor, fixed for all time. -/
structure Mount where
  /-- The frame that the sensor is mounted on. -/
  parent : String
  /-- The frame of the sensor. -/
  child : String
  /-- The displacement in metres. -/
  displacement : Vector3 Float32 := .zero
  /-- The turn. -/
  rotation : Quaternion Float32 := .identity
  deriving Repr

namespace Mount

/-- The pose of the sensor; its rotation has norm one. -/
def pose (m : Mount) : Pose Float32 := ⟨m.displacement, m.rotation.normalized⟩

/-- Every number of the mount is finite. -/
def isFinite (m : Mount) : Bool :=
  m.displacement.all Float32.isFinite &&
    [m.rotation.w, m.rotation.x, m.rotation.y, m.rotation.z].all Float32.isFinite

end Mount

/-- The settings of a watch. -/
structure Settings where
  /-- The frame in which points are judged. -/
  vehicle : String := "novatel"
  /-- The name under which warnings are shown. -/
  topic : String := "/guardian/collision_warning"
  /-- The time between two rounds of the monitor, in seconds. -/
  interval : Float := 0.1
  /-- What counts as danger. -/
  thresholds : Thresholds := {}
  /-- The mounts of the sensors. -/
  mounts : List Mount := []
  deriving Repr

namespace Settings

/-- The settings of a watch without a file: one sensor on the roof. -/
def standard : Settings :=
  { mounts := [⟨"novatel", "velodyne128", ⟨0, 1.2, 1.8⟩, .identity⟩] }

/-- Why a watch cannot start. -/
inductive Defect where
  /-- The vehicle's frame has no name. -/
  | noVehicle
  /-- The interval of the monitor is not above zero. -/
  | noInterval (interval : Float)
  /-- A mount does not join two frames. -/
  | noFrames (parent child : String)
  /-- A number of a mount is not finite. -/
  | noPlace (parent child : String)
  /-- The thresholds are meaningless. -/
  | thresholds (fault : Fault)
  deriving Repr

/-- The defect in words. -/
def Defect.message : Defect → String
  | noVehicle => "vehicle_frame_id must not be empty"
  | noInterval interval => s!"monitor_interval_secs must be positive, got {proseDouble interval}"
  | noFrames parent child =>
    s!"static transform {Text.quoted parent} -> {Text.quoted child} needs two distinct frame names"
  | noPlace parent child => s!"static transform {parent} -> {child} has non-finite values"
  | thresholds fault => fault.message

/-- The defect of a mount. -/
def mountDefect? (m : Mount) : Option Defect :=
  if m.parent = "" ∨ m.child = "" ∨ m.parent = m.child then some (.noFrames m.parent m.child)
  else if !m.isFinite then some (.noPlace m.parent m.child)
  else none

/-- The first defect. -/
def defect? (s : Settings) : Option Defect :=
  if Text.isBlankText s.vehicle.toList then some .noVehicle
  else if !s.interval.isFinite || s.interval ≤ 0 then some (.noInterval s.interval)
  else
    (s.mounts.findSome? mountDefect?).or <|
      match s.thresholds.validate with
      | .error fault => some (.thresholds fault)
      | .ok () => none

/-- The tree of the sensors' frames. -/
def tree (s : Settings) : FrameTree (Pose Float32) :=
  s.mounts.foldl (fun tree m => tree.setFixed m.parent m.child m.pose) {}

/-- The time between two rounds of the monitor. -/
def period (s : Settings) : Except Crash Duration := Duration.ofSeconds s.interval

end Settings

end CollisionWatch
