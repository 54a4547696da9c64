import CollisionWatch.Bus.Observer
import CollisionWatch.Duration
import CollisionWatch.Status.Board

/-!
# The brake monitor

In every round the brake monitor looks at the newest event among the verdicts and writes the safety
status anew: a collision requests the emergency stop, anything else releases it.  It follows the
newest event and not every one, so a verdict stays in force while nothing newer arrives.  A status
without the monitor's component is left alone.
-/

namespace CollisionWatch

/-- A monitor of the verdicts. -/
structure BrakeMonitor where
  /-- The time between two rounds. -/
  interval : Duration
  /-- The observer of the verdicts. -/
  observer : Observer
  /-- The emergency stop was requested by the last round that could write the status. -/
  braking : Bool := false

namespace BrakeMonitor

/-- The name of the monitor in a schedule. -/
def name : String := "CollisionMonitor"

/-- The component that the monitor reports on. -/
def component : String := "Collision"

/-- What passengers are told during an emergency stop. -/
def warning : String := "EMERGENCY BRAKING! Imminent Collision!"

/-- A new monitor on a bus; it sees what is published from now on. -/
def create (bus : Bus) (interval : Duration) : BrakeMonitor × Bus :=
  let (observer, bus) := Observer.create bus .collisionWarning
  ({ interval, observer }, bus)

/-- The verdict in the newest event. -/
def latestVerdict (m : BrakeMonitor) : Option Verdict :=
  m.observer.latest.bind (·.payload.verdict?)

/-- The status that a round writes. -/
def assess (collision : Bool) (time : Float) (status : SafetyStatus) : Bool × SafetyStatus :=
  if collision then
    (status.setAction (some warning) (some time) true).setComponent component ⟨.fatal, warning⟩
  else status.clearAction.setComponent component ⟨.ok, ""⟩

/-- The change that a round makes: none if the component is missing. -/
def change (collision : Bool) (time : Float) (status : SafetyStatus) : Bool × SafetyStatus :=
  if status.components.contains component then assess collision time status else (false, status)

/-- The notice of a round whose verdict differs from the one before. -/
def transition (before after : Bool) : List Notice :=
  if before = after then []
  else [if after then .brakingRequested else .brakingReleased]

/-- One round at a time. -/
def round (m : BrakeMonitor) (bus : Bus) (board : StatusBoard) (time : Float) :
    BrakeMonitor × StatusBoard × List Notice :=
  let (observer, lags) := m.observer.observe bus
  let m := { m with observer }
  let collision := m.latestVerdict.any (·.collision)
  match board.update (change collision time) with
  | (.ok true, board) =>
    ({ m with braking := collision }, board, lags ++ transition m.braking collision)
  | (.ok false, board) => (m, board, lags)
  | (.error _, board) => (m, board, lags ++ [.statusNotUpdated])

end BrakeMonitor

end CollisionWatch
