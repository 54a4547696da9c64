import CollisionWatch.Json.Number
import CollisionWatch.Json.Printer
import CollisionWatch.Settings.Basic

/-!
# The schema of the settings file

`schema` describes the settings file as a JSON Schema of draft 7: the settings themselves, and as
definitions the records that they are made of.  Properties stand in the order of their names.  A
field is required if it has no usual value.  Usual values are doubles even where the field is of
single precision, so they show the digits that the rounding to single precision left.
-/

namespace CollisionWatch.Settings

open Json (Value)

/-- What a field holds. -/
inductive Shape where
  /-- A string. -/
  | text
  /-- A double. -/
  | double
  /-- A single-precision float. -/
  | single
  /-- A word of thirty-two bits. -/
  | word
  /-- So many single-precision floats. -/
  | singles (count : Nat)
  /-- A record that is defined elsewhere. -/
  | record (name : String)
  /-- A list of such records. -/
  | records (name : String)
  deriving Repr

/-- A field as the schema describes it. -/
structure FieldSchema where
  /-- Its name. -/
  name : String
  /-- What it means, if that is said. -/
  meaning : Option String := none
  /-- Its usual value, if it has one. -/
  usual : Option Value := none
  /-- What it holds. -/
  shape : Shape

/-- A record as the schema describes it. -/
structure RecordSchema where
  /-- What it means. -/
  meaning : String
  /-- Its fields, in the order of their names. -/
  fields : List FieldSchema

/-! ## Values -/

/-- The reference to a definition. -/
def reference (name : String) : Value := .ofMembers [("$ref", .string ("#/definitions/" ++ name))]

/-- A number of a format. -/
def numberMembers (format : String) : List (String × Value) :=
  [("type", .string "number"), ("format", .string format)]

/-- The members that describe a shape. -/
def Shape.members : Shape → List (String × Value)
  | text => [("type", .string "string")]
  | double => numberMembers "double"
  | single => numberMembers "float"
  | word =>
    [("type", .string "integer"), ("format", .string "uint32"), ("minimum", .ofDouble 0)]
  | singles count =>
    [("type", .string "array"), ("items", .ofMembers (numberMembers "float")),
      ("maxItems", .ofNat count), ("minItems", .ofNat count)]
  | record name => [("allOf", .array [reference name])]
  | records name => [("type", .string "array"), ("items", reference name)]

/-- The value of a field's description. -/
def FieldSchema.value (f : FieldSchema) : Value :=
  .ofMembers ((f.meaning.map fun text => ("description", .string text)).toList ++
    (f.usual.map fun value => ("default", value)).toList ++ f.shape.members)

/-- The fields that have no usual value. -/
def RecordSchema.required (r : RecordSchema) : List String :=
  (r.fields.filter (·.usual.isNone)).map (·.name)

/-- The members of a record's description. -/
def RecordSchema.members (r : RecordSchema) : List (String × Value) :=
  [("description", .string r.meaning), ("type", .string "object")] ++
    (if r.required.isEmpty then [] else [("required", .ofStrings r.required)]) ++
    [("properties", .ofMembers (r.fields.map fun f => (f.name, f.value)))]

/-! ## Usual values -/

/-- A single-precision float, as the double of the same value. -/
def usualSingle (x : Float32) : Value := .ofDouble (Decimal.widen x)

/-- A box. -/
def usualExtents (e : Extents) : Value :=
  .ofMembers [("backward", usualSingle e.backward), ("forward", usualSingle e.forward),
    ("side", usualSingle e.side)]

/-- Thresholds. -/
def usualThresholds (t : Thresholds) : Value :=
  .ofMembers [("ego_box", usualExtents t.body), ("height_max", usualSingle t.heightMax),
    ("height_min", usualSingle t.heightMin),
    ("min_consecutive_frames_to_trigger", .ofNat t.minFrames.toNat),
    ("min_points_in_roi_to_trigger", .ofNat t.minPoints.toNat), ("roi", usualExtents t.region)]

/-! ## Records -/

/-- A box. -/
def extentsSchema : RecordSchema where
  meaning := "Extents of an axis-aligned box around the vehicle origin, in metres.\n\n" ++
    "`backward` is configured as a positive distance behind the origin; it is applied as a " ++
    "negative bound on the forward (+y) axis.  `side` is the half-width, compared against `|x|`."
  fields := [{ name := "backward", shape := .single }, { name := "forward", shape := .single },
    { name := "side", shape := .single }]

/-- Thresholds. -/
def thresholdsSchema : RecordSchema :=
  let usual : Thresholds := {}
  { meaning := "Tuning for the frame risk evaluator and the consensus tracker.\n\n" ++
      "Loaded once at startup and never mutated afterwards."
    fields := [
      { name := "ego_box"
        meaning := some "The vehicle's own body.  Points inside are never a risk."
        usual := some (usualExtents usual.body)
        shape := .record "BoxExtents" },
      { name := "height_max"
        meaning := some "Points above this height are treated as overhangs (metres)."
        usual := some (usualSingle usual.heightMax)
        shape := .single },
      { name := "height_min"
        meaning := some "Points below this height are treated as ground clutter (metres)."
        usual := some (usualSingle usual.heightMin)
        shape := .single },
      { name := "min_consecutive_frames_to_trigger"
        meaning := some "Consecutive frame risks needed before declaring a collision."
        usual := some (.ofNat usual.minFrames.toNat)
        shape := .word },
      { name := "min_points_in_roi_to_trigger"
        meaning := some "Qualifying points needed in one frame to call it a frame risk."
        usual := some (.ofNat usual.minPoints.toNat)
        shape := .word },
      { name := "roi"
        meaning := some "The protective region considered dangerous if intruded upon."
        usual := some (usualExtents usual.region)
        shape := .record "BoxExtents" }] }

/-- A mount. -/
def mountSchema : RecordSchema where
  meaning := "A fixed sensor mount: pose of `child` expressed in `parent`."
  fields := [
    { name := "child", shape := .text },
    { name := "parent", shape := .text },
    { name := "rotation"
      meaning := some "Unit quaternion, `[w, x, y, z]`."
      usual := some (.array ([1, 0, 0, 0].map usualSingle))
      shape := .singles 4 },
    { name := "translation"
      meaning := some "Metres, `[x, y, z]`."
      usual := some (.array ([0, 0, 0].map usualSingle))
      shape := .singles 3 }]

/-- The settings. -/
def settingsSchema : RecordSchema :=
  let usual : Settings := {}
  { meaning := "Persisted configuration stored in `~/.guardian/config.toml`."
    fields := [
      { name := "collision_warning_topic"
        meaning := some ("Display name for the warning stream in operator output.  Signals are " ++
          "always routed on the bus's collision-warning topic; this value does not select a " ++
          "channel.")
        usual := some (.string usual.topic)
        shape := .text },
      { name := "guardian"
        meaning := some "Geometric and temporal thresholds."
        usual := some (usualThresholds usual.thresholds)
        shape := .record "GuardianConfig" },
      { name := "monitor_interval_secs"
        meaning := some "Collision monitor period (seconds)."
        usual := some (.ofDouble usual.interval)
        shape := .double },
      { name := "static_transforms"
        meaning := some "Sensor mounts loaded into the transform tree at startup."
        usual := some (.array [])
        shape := .records "StaticTransformConfig" },
      { name := "vehicle_frame_id"
        meaning := some "Frame every point is evaluated in."
        usual := some (.string usual.vehicle)
        shape := .text }] }

/-- The name of the schema's dialect: a scheme and what it leads to. -/
def dialect : String := ":".intercalate ["http", "//json-schema.org/draft-07/schema#"]

/-- The schema of the settings file. -/
def schema : Value :=
  let definition (name : String) (r : RecordSchema) := (name, Value.ofMembers r.members)
  .ofMembers ([("$schema", .string dialect),
    ("title", .string "Config")] ++ settingsSchema.members ++
    [("definitions", .ofMembers [definition "BoxExtents" extentsSchema,
      definition "GuardianConfig" thresholdsSchema,
      definition "StaticTransformConfig" mountSchema])])

end CollisionWatch.Settings
