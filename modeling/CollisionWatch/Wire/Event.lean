import CollisionWatch.Json.Number
import CollisionWatch.Json.Record
import CollisionWatch.Wire.Identifier
import CollisionWatch.Wire.Instant

/-!
# Clouds, verdicts and events in JSON

Points, clouds, verdicts and events are records; the payload of an event is a variant named for its
kind.
-/

namespace CollisionWatch.Wire

open Json

/-! ## Points -/

/-- The names of the coordinates. -/
def pointFields : List String := ["x", "y", "z"]

/-- A point as a value. -/
def ofPoint (p : Point) : Value :=
  .ofMembers [("x", .ofSingle p.x), ("y", .ofSingle p.y), ("z", .ofSingle p.z)]

/-- The point of a value. -/
def point? (v : Value) : Option Point := do
  let [some x, some y, some z] ← v.fields? pointFields | none
  return ⟨← x.single?, ← y.single?, ← z.single?⟩

/-! ## Clouds -/

/-- The names of a cloud's fields. -/
def cloudFields : List String := ["frame_id", "timestamp_sec", "points"]

/-- A cloud as a value. -/
def ofCloud (c : Cloud) : Value :=
  .ofMembers [("frame_id", .string c.frame), ("timestamp_sec", .ofDouble c.time),
    ("points", .array (c.points.map ofPoint))]

/-- The cloud of a value. -/
def cloud? (v : Value) : Option Cloud := do
  let [some frame, some time, some points] ← v.fields? cloudFields | none
  return ⟨← frame.text?, ← time.double?, ← points.listOf? point?⟩

/-! ## Verdicts -/

/-- The names of a verdict's fields. -/
def verdictFields : List String := ["timestamp_sec", "is_collision"]

/-- A verdict as a value. -/
def ofVerdict (v : Verdict) : Value :=
  .ofMembers [("timestamp_sec", .ofDouble v.time), ("is_collision", .bool v.collision)]

/-- The verdict of a value. -/
def verdict? (v : Value) : Option Verdict := do
  let [some time, some collision] ← v.fields? verdictFields | none
  return ⟨← time.double?, ← collision.bool?⟩

/-! ## Events -/

/-- A payload as a value. -/
def ofPayload : Payload → Value
  | .cloud c => .ofMembers [("PointCloud", ofCloud c)]
  | .verdict v => .ofMembers [("CollisionWarning", ofVerdict v)]

/-- The payload of a value. -/
def payload? (v : Value) : Option Payload := do
  match ← v.variant? with
  | ("PointCloud", some content) => (cloud? content).map .cloud
  | ("CollisionWarning", some content) => (verdict? content).map .verdict
  | _ => none

/-- The names of an event's fields. -/
def eventFields : List String := ["id", "timestamp", "source", "payload"]

/-- An event as a value. -/
def ofEvent (e : Event) : Value :=
  .ofMembers [("id", .string (identifierText e.stamp.id)),
    ("timestamp", .string (instantText e.stamp.instant)), ("source", .string e.source),
    ("payload", ofPayload e.payload)]

/-- The event of a value. -/
def event? (v : Value) : Option Event := do
  let [some id, some instant, some source, some payload] ← v.fields? eventFields | none
  let id ← id.text?.bind readIdentifier?
  let instant ← instant.text?.bind readInstant?
  return ⟨⟨id, instant⟩, ← source.text?, ← payload? payload⟩

end CollisionWatch.Wire
