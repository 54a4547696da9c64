import CollisionWatch.Decimal.Precision
import CollisionWatch.Settings.Basic
import CollisionWatch.Toml.Printer
import CollisionWatch.Toml.Reader

/-!
# Settings as a TOML document

`document` writes settings, `ofDocument?` reads them.  A setting that a document does not name has
its usual value, and names it does not know are passed over.  Where a float is expected an integer
will do; a record may also be given as a list of its fields in order.
-/

namespace CollisionWatch

open Toml (Value Entries)

namespace Settings

/-! ## Reading -/

/-- The fields of a record, in the order of their names.  A date stands for a record without
fields. -/
def fields? (names : List String) : Value → Option (List (Option Value))
  | .table entries => some (names.map fun name => entries.lookup name)
  | .array items => some (names.zipIdx.map fun (_, i) => items[i]?)
  | .dateTime => some (names.map fun _ => none)
  | _ => none

/-- A string. -/
def string? : Value → Option String
  | .string text => some text
  | _ => none

/-- A double. -/
def double? : Value → Option Float
  | .integer n => some (Int64.ofInt n).toFloat
  | .float x => some x
  | _ => none

/-- A single-precision float; an integer is rounded once. -/
def single? : Value → Option Float32
  | .integer n => some (Int64.ofInt n).toFloat32
  | .float x => some (Decimal.narrow x)
  | _ => none

/-- A word. -/
def word? : Value → Option UInt32
  | .integer n => if 0 ≤ n ∧ n < UInt32.size then some n.toNat.toUInt32 else none
  | _ => none

/-- A field with its usual value where it is missing. -/
def orUsual {α : Type} (read : Value → Option α) (usual : α) : Option Value → Option α
  | none => some usual
  | some v => read v

/-- The first `count` numbers of a list. -/
def singles? (count : Nat) : Value → Option (List Float32)
  | .array items =>
    let items := items.take count
    if items.length = count then items.mapM single? else none
  | _ => none

/-- A vector. -/
def vector? (v : Value) : Option (Vector3 Float32) := do
  let [x, y, z] ← singles? 3 v | none
  return ⟨x, y, z⟩

/-- A quaternion. -/
def quaternion? (v : Value) : Option (Quaternion Float32) := do
  let [w, x, y, z] ← singles? 4 v | none
  return ⟨w, x, y, z⟩

/-- A box. -/
def extents? (v : Value) : Option Extents := do
  let [some forward, some backward, some side] ← fields? ["forward", "backward", "side"] v | none
  return ⟨← single? forward, ← single? backward, ← single? side⟩

/-- Thresholds. -/
def thresholds? (v : Value) : Option Thresholds := do
  let [body, region, heightMin, heightMax, minPoints, minFrames] ←
    fields? ["ego_box", "roi", "height_min", "height_max", "min_points_in_roi_to_trigger",
      "min_consecutive_frames_to_trigger"] v | none
  let usual : Thresholds := {}
  return {
    body := ← orUsual extents? usual.body body
    region := ← orUsual extents? usual.region region
    heightMin := ← orUsual single? usual.heightMin heightMin
    heightMax := ← orUsual single? usual.heightMax heightMax
    minPoints := ← orUsual word? usual.minPoints minPoints
    minFrames := ← orUsual word? usual.minFrames minFrames }

/-- A mount. -/
def mount? (v : Value) : Option Mount := do
  let [some parent, some child, displacement, rotation] ←
    fields? ["parent", "child", "translation", "rotation"] v | none
  return {
    parent := ← string? parent
    child := ← string? child
    displacement := ← orUsual vector? .zero displacement
    rotation := ← orUsual quaternion? .identity rotation }

/-- Mounts. -/
def mounts? : Value → Option (List Mount)
  | .array items => items.mapM mount?
  | _ => none

/-- The settings of a document. -/
def ofEntries? (entries : Entries) : Option Settings := do
  let usual : Settings := {}
  return {
    vehicle := ← orUsual string? usual.vehicle (entries.lookup "vehicle_frame_id")
    topic := ← orUsual string? usual.topic (entries.lookup "collision_warning_topic")
    interval := ← orUsual double? usual.interval (entries.lookup "monitor_interval_secs")
    thresholds := ← orUsual thresholds? usual.thresholds (entries.lookup "guardian")
    mounts := ← orUsual mounts? usual.mounts (entries.lookup "static_transforms") }

/-- The settings of a text. -/
def ofDocument? (text : String) : Option Settings := (Toml.read? text).bind ofEntries?

/-! ## Writing -/

open Toml (entryLine tableLine oneOfManyLine stringChars floatChars arrayChars)

/-- A single-precision float, as the double of the same value. -/
def singleChars (x : Float32) : List Char := floatChars (Decimal.widen x)

/-- A string. -/
def textChars (text : String) : List Char := stringChars text.toList

/-- A box. -/
def extentsLines (e : Extents) : List Char :=
  entryLine "forward" (singleChars e.forward) ++ entryLine "backward" (singleChars e.backward) ++
    entryLine "side" (singleChars e.side)

/-- Thresholds: the boxes are tables of their own. -/
def thresholdsLines (t : Thresholds) : List Char :=
  tableLine ["guardian"] ++ entryLine "height_min" (singleChars t.heightMin) ++
    entryLine "height_max" (singleChars t.heightMax) ++
    entryLine "min_points_in_roi_to_trigger" (Decimal.digitsOfNat t.minPoints.toNat) ++
    entryLine "min_consecutive_frames_to_trigger" (Decimal.digitsOfNat t.minFrames.toNat) ++
    tableLine ["guardian", "ego_box"] ++ extentsLines t.body ++
    tableLine ["guardian", "roi"] ++ extentsLines t.region

/-- A mount. -/
def mountLines (m : Mount) : List Char :=
  let v := m.displacement
  let q := m.rotation
  oneOfManyLine ["static_transforms"] ++ entryLine "parent" (textChars m.parent) ++
    entryLine "child" (textChars m.child) ++
    entryLine "translation" (arrayChars ([v.x, v.y, v.z].map singleChars)) ++
    entryLine "rotation" (arrayChars ([q.w, q.x, q.y, q.z].map singleChars))

/-- The document of the settings. -/
def documentChars (s : Settings) : List Char :=
  entryLine "vehicle_frame_id" (textChars s.vehicle) ++
    entryLine "collision_warning_topic" (textChars s.topic) ++
    entryLine "monitor_interval_secs" (floatChars s.interval) ++
    (if s.mounts.isEmpty then entryLine "static_transforms" (arrayChars []) else []) ++
    thresholdsLines s.thresholds ++ s.mounts.flatMap mountLines

/-- All texts of the settings. -/
def texts (s : Settings) : List String :=
  s.vehicle :: s.topic :: s.mounts.flatMap fun m => [m.parent, m.child]

/-- The document of the settings, if all their texts can be written. -/
def document (s : Settings) : Except Crash String :=
  if s.texts.all (fun text => Toml.isWritable text.toList) then
    .ok (String.ofList s.documentChars)
  else .error .quoteRun

end Settings

end CollisionWatch
