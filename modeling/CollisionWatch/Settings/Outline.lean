import CollisionWatch.Settings.Basic
import CollisionWatch.Text.Outline

/-!
# Settings for a reader

The outline of settings names every setting as the settings file does, with the numbers as they are
held: a single-precision float has no more digits than tell it from its neighbours.
-/

namespace CollisionWatch.Settings

open Text (Outline)
open Decimal (outlineSingle outlineDouble)

/-- Single-precision floats. -/
def singlesOutline (xs : List Float32) : Outline := .list (xs.map (.plain <| outlineSingle ·))

/-- A box. -/
def extentsOutline (e : Extents) : Outline :=
  .record "BoxExtents" [("forward", .plain (outlineSingle e.forward)),
    ("backward", .plain (outlineSingle e.backward)), ("side", .plain (outlineSingle e.side))]

/-- Thresholds. -/
def thresholdsOutline (t : Thresholds) : Outline :=
  .record "GuardianConfig" [("ego_box", extentsOutline t.body), ("roi", extentsOutline t.region),
    ("height_min", .plain (outlineSingle t.heightMin)),
    ("height_max", .plain (outlineSingle t.heightMax)),
    ("min_points_in_roi_to_trigger", .ofNat t.minPoints.toNat),
    ("min_consecutive_frames_to_trigger", .ofNat t.minFrames.toNat)]

/-- A mount. -/
def mountOutline (m : Mount) : Outline :=
  let v := m.displacement
  let q := m.rotation
  .record "StaticTransformConfig" [("parent", .ofName m.parent), ("child", .ofName m.child),
    ("translation", singlesOutline [v.x, v.y, v.z]),
    ("rotation", singlesOutline [q.w, q.x, q.y, q.z])]

/-- The settings. -/
def outline (s : Settings) : Outline :=
  .record "Config" [("vehicle_frame_id", .ofName s.vehicle),
    ("collision_warning_topic", .ofName s.topic),
    ("monitor_interval_secs", .plain (outlineDouble s.interval)),
    ("guardian", thresholdsOutline s.thresholds),
    ("static_transforms", .list (s.mounts.map mountOutline))]

end CollisionWatch.Settings
