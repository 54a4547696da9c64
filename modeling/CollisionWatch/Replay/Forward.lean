import CollisionWatch.Bus.Basic
import CollisionWatch.Files.Basic
import CollisionWatch.Replay.FrameLog

/-!
# Forwarding recorded clouds

A recorded log stands in for a sensor: its clouds are published on the bus one after the other.  A
cloud that nobody listens for is dropped with a notice and never sent later; the sensor does not wait
for its listeners.
-/

namespace CollisionWatch.Replay

/-- The name of a recorded log among the sensors. -/
def sensorName : String := "replay"

/-- The publisher's name in the events of a sensor. -/
def source (sensor : String) : String := "guardian-middleware::" ++ sensor

/-- The recorded clouds of a file, with the notices of reading it. -/
def openLog {m : Type → Type} [Monad m] [Files.FileStore m] (path : String) :
    m (Except Fault (List Cloud × List Notice)) := do
  match ← Files.readText path with
  | .error e => return .error (.io s!"failed to read frame log {path}: {e.message}")
  | .ok text =>
    let log := FrameLog.read text
    return .ok (log.clouds, log.notices ++ [.logLoaded])

/-- The bus, the number of clouds that reached somebody, and the notices. -/
structure Progress where
  /-- The bus. -/
  bus : Bus
  /-- How many clouds reached somebody. -/
  delivered : Nat := 0
  /-- The notices. -/
  notices : List Notice := []

/-- Publish one cloud. -/
def forwardOne (p : Progress) (cloud : Cloud) (stamp : Stamp) : Progress :=
  let ⟨bus, delivered, notices⟩ := p
  match bus.publish .pointCloud ⟨stamp, source sensorName, .cloud cloud⟩ with
  | (.ok _, bus) => ⟨bus, delivered + 1, notices⟩
  | (.error _, bus) => ⟨bus, delivered, notices ++ [.cloudDropped]⟩

/-- Publish clouds in order, each with its stamp. -/
def forward (p : Progress) (clouds : List (Cloud × Stamp)) : Progress :=
  clouds.foldl (fun p c => forwardOne p c.1 c.2) p

end CollisionWatch.Replay
