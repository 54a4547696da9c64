import CollisionWatch.Geometry.Vector3

/-!
# Events

What travels between the parts of the watch: clouds of points from a sensor, and verdicts on them.
An event wraps one of them with an identifier, the time of its making and the name of its source.
-/

namespace CollisionWatch

/-- The points of one sweep of a sensor. -/
structure Cloud where
  /-- The frame whose coordinates the points have. -/
  frame : String
  /-- The time of capture, in seconds. -/
  time : Float
  /-- The points. -/
  points : List Point
  deriving Repr

/-- The judgement on one cloud, debounced over the ones before it. -/
structure Verdict where
  /-- The time of the judgement, in seconds. -/
  time : Float
  /-- A collision is imminent. -/
  collision : Bool
  deriving Repr

/-- A point in time: whole seconds since the start of 1970, and nanoseconds after them.  During a
leap second the nanoseconds are a thousand million or more. -/
structure Instant where
  /-- The seconds. -/
  seconds : Int
  /-- The nanoseconds. -/
  nanoseconds : Nat
  deriving Repr, DecidableEq

/-- The instant in seconds, to the microsecond. -/
def Instant.toSeconds (t : Instant) : Float :=
  (Int64.ofInt (t.seconds * 1000000 + (t.nanoseconds / 1000 : Nat))).toFloat * 1e-6

/-- An identifier of a hundred and twenty-eight bits. -/
abbrev Identifier := BitVec 128

/-- What is new about every event: an identifier never used before, and the time of its making. -/
structure Stamp where
  /-- The identifier. -/
  id : Identifier
  /-- The time. -/
  instant : Instant
  deriving Repr, DecidableEq

/-- What an event carries. -/
inductive Payload where
  /-- A cloud. -/
  | cloud (cloud : Cloud)
  /-- A verdict. -/
  | verdict (verdict : Verdict)
  deriving Repr

/-- What is published. -/
structure Event where
  /-- The identifier and the time. -/
  stamp : Stamp
  /-- The name of the publisher. -/
  source : String
  /-- The content. -/
  payload : Payload
  deriving Repr

/-- The verdict that an event carries. -/
def Payload.verdict? : Payload → Option Verdict
  | verdict v => some v
  | cloud _ => none

end CollisionWatch
