import CollisionWatch.NameMap

/-!
# The safety status of a vehicle

The record that actuation and displays read: whether the vehicle must stop, what passengers are told
and since when, and how each monitored component is doing.
-/

namespace CollisionWatch

/-- How well a component is. -/
inductive Health where
  /-- Nothing is known yet. -/
  | unknown
  /-- All is well. -/
  | ok
  /-- Something deserves attention. -/
  | warn
  /-- The component fails. -/
  | error
  /-- The component demands a stop. -/
  | fatal
  deriving Repr, DecidableEq

namespace Health

/-- All of them. -/
def all : List Health := [unknown, ok, warn, error, fatal]

/-- The name of the health. -/
def text : Health → String
  | unknown => "Unknown"
  | ok => "Ok"
  | warn => "Warn"
  | error => "Error"
  | fatal => "Fatal"

/-- The health of a name. -/
def ofText? (name : String) : Option Health := all.find? fun h => h.text == name

/-- A health is read back from its text. -/
theorem ofText?_text (h : Health) : ofText? h.text = some h := by
  cases h <;> decide

end Health

/-- The state of a component. -/
structure Component where
  /-- Its health. -/
  health : Health := .unknown
  /-- What it reports. -/
  message : String := ""
  deriving Repr, DecidableEq

/-- The safety status. -/
structure SafetyStatus where
  /-- What passengers are told while a safety action is on. -/
  message : Option String := none
  /-- When the safety action was last asserted, in seconds. -/
  since : Option Float := none
  /-- The vehicle must stop. -/
  stop : Bool := false
  /-- The components by name. -/
  components : NameMap Component := .empty

namespace SafetyStatus

/-- A status that knows nothing of these components yet. -/
def ofNames (names : List String) : SafetyStatus :=
  { components := .ofList (names.map (·, {})) }

/-- No safety action; the components stay. -/
def clearAction (status : SafetyStatus) : SafetyStatus :=
  { status with message := none, since := none, stop := false }

/-- A safety action. -/
def setAction (status : SafetyStatus) (message : Option String) (since : Option Float)
    (stop : Bool) : SafetyStatus :=
  { status with message, since, stop }

/-- Another state for a component; false if there is none of that name. -/
def setComponent (status : SafetyStatus) (name : String) (state : Component) :
    Bool × SafetyStatus :=
  (status.components.contains name,
    { status with components := status.components.modify name fun _ => state })

end SafetyStatus

end CollisionWatch
