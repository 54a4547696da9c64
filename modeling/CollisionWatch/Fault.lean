import CollisionWatch.Decimal.Places

/-!
# Faults

A fault is an error that a caller is told about: what could not be done, with what the message
needs to name it.
-/

namespace CollisionWatch

/-- Why an operation failed. -/
inductive Fault where
  /-- No motion joins two frames at a time. -/
  | unresolved (time : Float) (target source : String)
  /-- A configuration cannot be used. -/
  | invalidConfiguration (reason : String)
  /-- An event reached nobody. -/
  | undelivered (reason : String)
  /-- A value could not be written down. -/
  | serialization (reason : String)
  /-- A file could not be read or written. -/
  | io (reason : String)
  /-- An update of the safety status broke off half-way. -/
  | poisonedStatus
  deriving Repr

namespace Fault

/-- The message for the operator. -/
def message : Fault → String
  | unresolved time target source =>
    s!"Transform Unavailable: {source} -> {target} at t={Decimal.places 3 time}"
  | invalidConfiguration reason => s!"Invalid Configuration: {reason}"
  | undelivered reason => s!"Publish Failure: {reason}"
  | serialization reason => s!"Serialization Error: {reason}"
  | io reason => s!"I/O Error: {reason}"
  | poisonedStatus => "Safety status lock poisoned"

/-- The name of the kind of fault. -/
def kind : Fault → String
  | unresolved .. => "TransformUnavailable"
  | invalidConfiguration _ => "ConfigurationInvalid"
  | undelivered _ => "PublishFailure"
  | serialization _ => "Serialization"
  | io _ => "Io"
  | poisonedStatus => "StatusPoisoned"

end Fault

end CollisionWatch
