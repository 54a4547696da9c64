import CollisionWatch.Json.Number
import CollisionWatch.Json.Record
import CollisionWatch.Status.Basic

/-!
# The safety status in JSON

The status is a record; its components are an object with their names as members, in order.  What is
not there is `null`, and may also be missing.
-/

namespace CollisionWatch.Wire

open Json

/-- The health of a value. -/
def health? (v : Value) : Option Health := do
  let (name, content) ← v.variant?
  if Value.isNoContent content then Health.ofText? name else none

/-- The names of a component's fields. -/
def componentFields : List String := ["status", "message"]

/-- A component as a value. -/
def ofComponent (c : Component) : Value :=
  .ofMembers [("status", .string c.health.text), ("message", .string c.message)]

/-- The component of a value. -/
def component? (v : Value) : Option Component := do
  let [some health, some message] ← v.fields? componentFields | none
  return ⟨← health? health, ← message.text?⟩

/-- The components of a value; of several of one name the last counts. -/
def components? (v : Value) : Option (NameMap Component) := do
  let .object members := v | none
  let entries ← members.mapM fun (name, value) => do return (← name, ← component? value)
  return .ofList entries

/-- The names of the fields of the status. -/
def statusFields : List String :=
  ["passenger_msg", "safety_mode_trigger_time", "require_emergency_stop", "components"]

/-- The status as a value. -/
def ofStatus (s : SafetyStatus) : Value :=
  .ofMembers [("passenger_msg", .ofOption .string s.message),
    ("safety_mode_trigger_time", .ofOption .ofDouble s.since),
    ("require_emergency_stop", .bool s.stop),
    ("components", .ofMembers (s.components.entries.map fun (name, c) => (name, ofComponent c)))]

/-- The status of a value. -/
def status? (v : Value) : Option SafetyStatus := do
  let [message, since, some stop, some components] ← v.fields? statusFields | none
  return {
    message := ← Value.optional? Value.text? message
    since := ← Value.optional? Value.double? since
    stop := ← stop.bool?
    components := ← components? components }

end CollisionWatch.Wire
