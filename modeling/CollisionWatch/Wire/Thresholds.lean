import CollisionWatch.Json.Number
import CollisionWatch.Json.Record
import CollisionWatch.Risk.Thresholds

/-!
# Thresholds in JSON

A box is a record of three distances.  Thresholds are a record in which every field may be missing
and then has its usual value.
-/

namespace CollisionWatch.Wire

open Json

/-- The names of a box's fields. -/
def extentsFields : List String := ["forward", "backward", "side"]

/-- A box as a value. -/
def ofExtents (e : Extents) : Value :=
  .ofMembers [("forward", .ofSingle e.forward), ("backward", .ofSingle e.backward),
    ("side", .ofSingle e.side)]

/-- The box of a value. -/
def extents? (v : Value) : Option Extents := do
  let [some forward, some backward, some side] ← v.fields? extentsFields | none
  return ⟨← forward.single?, ← backward.single?, ← side.single?⟩

/-- The names of the fields of thresholds. -/
def thresholdsFields : List String :=
  ["ego_box", "roi", "height_min", "height_max", "min_points_in_roi_to_trigger",
    "min_consecutive_frames_to_trigger"]

/-- Thresholds as a value. -/
def ofThresholds (t : Thresholds) : Value :=
  .ofMembers [("ego_box", ofExtents t.body), ("roi", ofExtents t.region),
    ("height_min", .ofSingle t.heightMin), ("height_max", .ofSingle t.heightMax),
    ("min_points_in_roi_to_trigger", .ofNat t.minPoints.toNat),
    ("min_consecutive_frames_to_trigger", .ofNat t.minFrames.toNat)]

/-- The thresholds of a value. -/
def thresholds? (v : Value) : Option Thresholds := do
  let [body, region, heightMin, heightMax, minPoints, minFrames] ← v.fields? thresholdsFields
    | none
  let usual : Thresholds := {}
  return {
    body := ← Value.withDefault? extents? usual.body body
    region := ← Value.withDefault? extents? usual.region region
    heightMin := ← Value.withDefault? Value.single? usual.heightMin heightMin
    heightMax := ← Value.withDefault? Value.single? usual.heightMax heightMax
    minPoints := ← Value.withDefault? Value.word? usual.minPoints minPoints
    minFrames := ← Value.withDefault? Value.word? usual.minFrames minFrames }

end CollisionWatch.Wire
