import CollisionWatch.Proofs.Json.Record
import CollisionWatch.Proofs.NameMap
import CollisionWatch.Proofs.Wire.Identifier
import CollisionWatch.Proofs.Wire.Instant
import CollisionWatch.Wire.Event
import CollisionWatch.Wire.Fault
import CollisionWatch.Wire.Status
import CollisionWatch.Wire.Thresholds

/-!
# The records of the watch, written and read back

JSON keeps a float that is finite and whose literal denotes it, bit for bit, and a record whose
floats it keeps.  Main statement: the text of a record that JSON keeps is read as that record, and
whatever the record, its text holds no line end (`roundTrips_wire`).
-/

namespace CollisionWatch

open Json (Value IsOneLine)

/-! ## What JSON keeps -/

/-- JSON keeps a double. -/
structure KeepsDouble (x : Float) : Prop where
  /-- It is finite. -/
  finite : x.isFinite = true
  /-- Its literal denotes it. -/
  read : (Value.ofDouble x).double? = some x

/-- JSON keeps a single-precision float. -/
structure KeepsSingle (x : Float32) : Prop where
  /-- It is finite. -/
  finite : x.isFinite = true
  /-- Its literal denotes it. -/
  read : (Value.ofSingle x).single? = some x

/-- JSON keeps every coordinate of a point. -/
structure Point.IsKept (p : Point) : Prop where
  x : KeepsSingle p.x
  y : KeepsSingle p.y
  z : KeepsSingle p.z

/-- JSON keeps the time and the points of a cloud. -/
structure Cloud.IsKept (c : Cloud) : Prop where
  time : KeepsDouble c.time
  points : ∀ p ∈ c.points, Point.IsKept p

/-- JSON keeps the time of a verdict. -/
def Verdict.IsKept (v : Verdict) : Prop := KeepsDouble v.time

/-- JSON keeps the distances of a box. -/
structure Extents.IsKept (e : Extents) : Prop where
  forward : KeepsSingle e.forward
  backward : KeepsSingle e.backward
  side : KeepsSingle e.side

/-- JSON keeps the bounds of thresholds. -/
structure Thresholds.IsKept (t : Thresholds) : Prop where
  body : t.body.IsKept
  region : t.region.IsKept
  heightMin : KeepsSingle t.heightMin
  heightMax : KeepsSingle t.heightMax

/-- JSON keeps what an event carries. -/
def Payload.IsKept : Payload → Prop
  | .cloud c => c.IsKept
  | .verdict v => v.IsKept

/-- JSON keeps an event: its content, and its time, which the calendar can write. -/
structure Event.IsKept (e : Event) : Prop where
  instant : e.stamp.instant.IsWritable
  payload : e.payload.IsKept

/-- JSON keeps the time of a fault, if it has one. -/
def Fault.IsKept : Fault → Prop
  | .unresolved time _ _ => KeepsDouble time
  | _ => True

/-- JSON keeps the time of a safety action, if there is one. -/
def SafetyStatus.IsKept (s : SafetyStatus) : Prop := ∀ time ∈ s.since, KeepsDouble time

namespace Wire

open Json

/-! ## Reading back -/

/-- A point whose coordinates are kept is read back. -/
theorem point?_ofPoint {p : Point} (h : Point.IsKept p) : point? (ofPoint p) = some p := by
  rw [point?, ofPoint, Value.fields?_ofMembers (by decide : pointFields.Nodup)]
  · simp [h.x.read, h.y.read, h.z.read]
  · rfl

/-- A cloud of points that are kept is read back. -/
theorem cloud?_ofCloud {c : Cloud} (h : c.IsKept) : cloud? (ofCloud c) = some c := by
  have hpoints := Value.listOf?_map fun p hp => point?_ofPoint (h.points p hp)
  rw [cloud?, ofCloud, Value.fields?_ofMembers (by decide : cloudFields.Nodup)]
  · simp [h.time.read, hpoints, Value.text?]
  · rfl

/-- A verdict is read back. -/
theorem verdict?_ofVerdict {v : Verdict} (h : v.IsKept) : verdict? (ofVerdict v) = some v := by
  rw [verdict?, ofVerdict, Value.fields?_ofMembers (by decide : verdictFields.Nodup)]
  · simp [h.read, Value.bool?]
  · rfl

/-- Extents are read back. -/
theorem extents?_ofExtents {e : Extents} (h : e.IsKept) : extents? (ofExtents e) = some e := by
  rw [extents?, ofExtents, Value.fields?_ofMembers (by decide : extentsFields.Nodup)]
  · simp [h.forward.read, h.backward.read, h.side.read]
  · rfl

/-- Thresholds are read back. -/
theorem thresholds?_ofThresholds {t : Thresholds} (h : t.IsKept) :
    thresholds? (ofThresholds t) = some t := by
  rw [thresholds?, ofThresholds, Value.fields?_ofMembers (by decide : thresholdsFields.Nodup)]
  · simp [Value.withDefault?, extents?_ofExtents h.body, extents?_ofExtents h.region,
    h.heightMin.read, h.heightMax.read, Value.word?_ofNat]
  · rfl

/-- A payload is read back, whichever it is. -/
theorem payload?_ofPayload {p : Payload} (h : p.IsKept) : payload? (ofPayload p) = some p := by
  cases p with
  | cloud c => simp [payload?, ofPayload, Value.ofMembers, Value.variant?, cloud?_ofCloud h]
  | verdict v => simp [payload?, ofPayload, Value.ofMembers, Value.variant?, verdict?_ofVerdict h]

/-- An event is read back. -/
theorem event?_ofEvent {e : Event} (h : e.IsKept) : event? (ofEvent e) = some e := by
  rw [event?, ofEvent, Value.fields?_ofMembers (by decide : eventFields.Nodup)]
  · simp [Value.text?, readIdentifier?_text, readInstant?_text h.instant, payload?_ofPayload h.payload]
  · rfl

/-- What a fault says of two frames without a motion is read back. -/
theorem unresolved?_ofMembers {time : Float} (h : KeepsDouble time) (target source : String) :
    unresolved? (.ofMembers [("timestamp", .ofDouble time), ("target_frame", .string target),
      ("source_frame", .string source)]) = some (.unresolved time target source) := by
  rw [unresolved?, Value.fields?_ofMembers (by decide : unresolvedFields.Nodup)]
  · simp [h.read, Value.text?]
  · rfl

/-- A fault is read back, whichever it is. -/
theorem fault?_ofFault {f : Fault} (h : f.IsKept) : fault? (ofFault f) = some f := by
  cases f with
  | unresolved time target source =>
    have hread := unresolved?_ofMembers h target source
    simp only [ofFault, Fault.kind, fault?, Value.ofMembers, Value.variant?, List.map] at hread ⊢
    exact hread
  | poisonedStatus => rfl
  | _ => rfl

/-- A component is read back. -/
theorem component?_ofComponent (c : Component) : component? (ofComponent c) = some c := by
  have hhealth : health? (.string c.health.text) = some c.health := by
    simp [health?, Value.variant?, Value.isNoContent, Health.ofText?_text]
  rw [component?, ofComponent, Value.fields?_ofMembers (by decide : componentFields.Nodup)]
  · simp [hhealth, Value.text?]
  · rfl

/-- The components of a status are read back, by their names. -/
theorem components?_entries (components : NameMap Component) :
    components? (.ofMembers (components.entries.map fun (name, c) => (name, ofComponent c))) =
      some components := by
  have hread : components.entries.mapM (fun e => do return (e.1, ← component? (ofComponent e.2))) =
      some (components.entries.map id) :=
    Value.mapM_eq_some_map fun e _ => by rw [component?_ofComponent]; rfl
  rw [List.map_id] at hread
  simp only [components?, Value.ofMembers, List.mapM_map]
  exact bind_eq_some hread (congrArg some components.ofList_entries)

/-- A status is read back. -/
theorem status?_ofStatus {s : SafetyStatus} (h : s.IsKept) : status? (ofStatus s) = some s := by
  have hmessage : Value.optional? Value.text? (some (Value.ofOption .string s.message)) =
      some s.message :=
    Value.optional?_ofOption (fun _ _ hnull => nomatch hnull) fun _ _ => rfl
  have hsince : Value.optional? Value.double? (some (Value.ofOption .ofDouble s.since)) =
      some s.since := by
    refine Value.optional?_ofOption (fun time htime hnull => ?_) fun time htime => (h time htime).read
    have hread := (h time htime).read
    rw [hnull] at hread
    cases hread
  rw [status?, ofStatus, Value.fields?_ofMembers (by decide : statusFields.Nodup)]
  · simp [hmessage, hsince, components?_entries, Value.bool?]
  · rfl

/-! ## Soundness -/

/-- The value of a point is sound, whatever its coordinates are. -/
theorem isSound_ofPoint (p : Point) : (ofPoint p).IsSound :=
  Value.isSound_ofMembers <| by simp [Value.isSound_ofSingle]

/-- The value of a cloud is sound. -/
theorem isSound_ofCloud (c : Cloud) : (ofCloud c).IsSound := by
  have hpoints : (Value.array (c.points.map ofPoint)).IsSound :=
    .array <| by simpa using fun p _ => isSound_ofPoint p
  exact Value.isSound_ofMembers <| by simp [hpoints, Value.isSound_ofDouble, Value.IsSound.string]

/-- The value of a verdict is sound. -/
theorem isSound_ofVerdict (v : Verdict) : (ofVerdict v).IsSound :=
  Value.isSound_ofMembers <| by simp [Value.isSound_ofDouble, Value.IsSound.bool]

/-- The value of extents is sound. -/
theorem isSound_ofExtents (e : Extents) : (ofExtents e).IsSound :=
  Value.isSound_ofMembers <| by simp [Value.isSound_ofSingle]

/-- The value of thresholds is sound. -/
theorem isSound_ofThresholds (t : Thresholds) : (ofThresholds t).IsSound :=
  Value.isSound_ofMembers <| by simp [isSound_ofExtents, Value.isSound_ofSingle, Value.isSound_ofNat]

/-- The value of an event is sound. -/
theorem isSound_ofEvent (e : Event) : (ofEvent e).IsSound := by
  have hpayload : (ofPayload e.payload).IsSound := by
    cases e.payload with
    | cloud c => exact Value.isSound_ofMembers <| by simp [isSound_ofCloud]
    | verdict v => exact Value.isSound_ofMembers <| by simp [isSound_ofVerdict]
  exact Value.isSound_ofMembers <| by simp [hpayload, Value.IsSound.string]

/-- The value of a fault is sound. -/
theorem isSound_ofFault (f : Fault) : (ofFault f).IsSound := by
  cases f with
  | unresolved time target source =>
    refine Value.isSound_ofMembers (List.forall_mem_singleton.2 (Value.isSound_ofMembers ?_))
    simp [Value.isSound_ofDouble, Value.IsSound.string]
  | poisonedStatus => exact .string _
  | _ => exact Value.isSound_ofMembers <| by simp [Value.IsSound.string]

/-- The value of a status is sound. -/
theorem isSound_ofStatus (s : SafetyStatus) : (ofStatus s).IsSound := by
  have hcomponent (c : Component) : (ofComponent c).IsSound :=
    Value.isSound_ofMembers <| by simp [Value.IsSound.string]
  have hcomponents : (Value.ofMembers (s.components.entries.map fun (name, c) =>
      (name, ofComponent c))).IsSound := by
    refine Value.isSound_ofMembers fun m hm => ?_
    obtain ⟨e, -, rfl⟩ := List.mem_map.1 hm
    exact hcomponent e.2
  exact Value.isSound_ofMembers <| by
    simp [hcomponents, Value.isSound_ofOption, Value.isSound_ofDouble, Value.IsSound.string,
      Value.IsSound.bool]

/-! ## Round trips -/

/-- A kind of value comes back from its text if JSON keeps it, and no text of that kind holds a line
end. -/
def RoundTrips {α : Type} (write : α → Value) (read : Value → Option α) (IsKept : α → Prop) : Prop :=
  ∀ a, (IsKept a → (read? (write a).compact).bind read = some a) ∧
    ∀ c ∈ (write a).compact.toList, c ≠ '\n' ∧ c ≠ '\r'

/-- A kind of value round-trips if its JSON values are sound and read back. -/
theorem roundTrips_of_isSound {α : Type} {write : α → Value} {read : Value → Option α}
    {IsKept : α → Prop} (hsound : ∀ a, (write a).IsSound)
    (hread : ∀ {a}, IsKept a → read (write a) = some a) : RoundTrips write read IsKept := by
  refine fun a => ⟨fun h => ?_, fun c hc => ?_⟩
  · rw [read?_compact (hsound a), Option.bind_some, hread h]
  · rw [Value.compact, String.toList_ofList] at hc
    have hprintable := isOneLine_valueChars (hsound a) c hc
    constructor <;> rintro rfl <;> revert hprintable <;> decide

/-- **Every record of the watch round-trips.** -/
theorem roundTrips_wire :
    RoundTrips ofPoint point? Point.IsKept ∧ RoundTrips ofCloud cloud? Cloud.IsKept ∧
      RoundTrips ofVerdict verdict? Verdict.IsKept ∧ RoundTrips ofExtents extents? Extents.IsKept ∧
      RoundTrips ofThresholds thresholds? Thresholds.IsKept ∧
      RoundTrips ofEvent event? Event.IsKept ∧ RoundTrips ofFault fault? Fault.IsKept ∧
      RoundTrips ofStatus status? SafetyStatus.IsKept :=
  ⟨roundTrips_of_isSound isSound_ofPoint point?_ofPoint,
    roundTrips_of_isSound isSound_ofCloud cloud?_ofCloud,
    roundTrips_of_isSound isSound_ofVerdict verdict?_ofVerdict,
    roundTrips_of_isSound isSound_ofExtents extents?_ofExtents,
    roundTrips_of_isSound isSound_ofThresholds thresholds?_ofThresholds,
    roundTrips_of_isSound isSound_ofEvent event?_ofEvent,
    roundTrips_of_isSound isSound_ofFault fault?_ofFault,
    roundTrips_of_isSound isSound_ofStatus status?_ofStatus⟩

/-- An event with a cloud whose frame has a quote, a line feed and a control character in its name,
and a fault without content. -/
theorem roundTrips_wire_event :
    let e : Event := ⟨⟨0x5c1f2a, ⟨1700000000, 250000000⟩⟩, "side\\scan",
      .cloud ⟨"\"lidar\"\n\x01", 12.0625, [⟨0.1, -3, 1e-7⟩]⟩⟩
    e.IsKept ∧ (read? (ofEvent e).compact).bind event? = some e ∧
      (read? (ofFault .poisonedStatus).compact).bind fault? = some .poisonedStatus := by
  intro e
  have hkept : e.IsKept := ⟨⟨by decide, .inl (by decide)⟩, ⟨⟨rfl, rfl⟩, by
    rintro p (_ | ⟨_, ⟨⟩⟩)
    exact ⟨⟨rfl, rfl⟩, ⟨rfl, rfl⟩, ⟨rfl, rfl⟩⟩⟩⟩
  exact ⟨hkept, (roundTrips_wire.2.2.2.2.2.1 e).1 hkept,
    (roundTrips_wire.2.2.2.2.2.2.1 .poisonedStatus).1 trivial⟩

end Wire

end CollisionWatch
