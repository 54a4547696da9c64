import CollisionWatch.Proofs.Bus.Topics
import CollisionWatch.Proofs.Feed.Intake

/-!
# A line from the publishers to a sentinel

A line is a bus, the feed that listens to its clouds, and what has happened so far: the events that
were published, what was brought to the sentinel, and the notices. Things happen in any order
(`Happening`): an event is published, the feed takes a step or loses its patience, the shutdown is
raised, handles of the bus are cloned and dropped, and others use the bus of the verdicts.

The published events are in one of five classes. The ones that the feed has come by are judged,
given up, passed over or lost; the rest are pending.
-/

namespace CollisionWatch

/-- One thing that happens to a line. -/
inductive Happening where
  /-- An event is published among the clouds. -/
  | publish (event : Event)
  /-- The feed takes a step; a verdict that it leads to gets this stamp. -/
  | step (stamp : Stamp)
  /-- The feed has waited long enough. -/
  | wake
  /-- The shutdown is raised. -/
  | raise
  /-- A handle of the bus is cloned. -/
  | clone
  /-- A handle of the bus is dropped. -/
  | drop
  /-- Others do something with the bus of the verdicts. -/
  | others (change : Bus → Bus)

/-- Whether something is published. -/
def Happening.isPublish : Happening → Bool
  | publish _ => true
  | _ => false

/-- A feed, the bus it listens to, and what has happened so far. -/
structure Line where
  /-- The feed. -/
  feed : Feed
  /-- The bus of the clouds. -/
  bus : Bus
  /-- The shutdown was raised. -/
  shutdown : Bool := false
  /-- The events that were published since the feed listens. -/
  published : List Event := []
  /-- What was brought to the sentinel. -/
  log : List Intake := []
  /-- The notices of the feed. -/
  notices : List Notice := []

namespace Line

/-- A line whose feed begins to listen to a bus. -/
def start (s : Sentinel) (bus output : Bus) : Line :=
  let (listener, bus) := bus.subscribe .pointCloud
  { feed := { sentinel := s, listener, output }, bus }

/-- The line after something happened. Nothing can be published on a closed bus. -/
def act (line : Line) : Happening → Except Crash Line
  | .publish event =>
    if line.bus.clouds.isOpen then
      match line.bus.publish .pointCloud event with
      | (.ok _, bus) => .ok { line with bus, published := line.published ++ [event] }
      | (.error _, bus) => .ok { line with bus }
    else .ok line
  | .step stamp => do
    let (feed, notices) ← line.feed.step line.bus line.shutdown stamp
    return { line with
      feed
      log := line.log ++ line.feed.intakes line.bus line.shutdown stamp
      notices := line.notices ++ notices }
  | .wake => .ok { line with feed := line.feed.wake }
  | .raise => .ok { line with shutdown := true }
  | .clone => .ok { line with bus := line.bus.addHandle }
  | .drop => .ok { line with bus := line.bus.dropHandle }
  | .others change =>
    .ok { line with
      feed := { line.feed with output := change line.feed.output }
      log := line.log ++ [.others change] }

/-- The line after some things happened. -/
def run (line : Line) (happenings : List Happening) : Except Crash Line :=
  happenings.foldlM act line

/-! ## The published events -/

/-- The fates of the events that the feed has come by, in the order of their publication. -/
def fates (line : Line) : List (Option Event) := line.log.flatMap Intake.fates

/-- The marks of the events that the feed has come by. -/
def marks (s : Sentinel) (line : Line) : List Mark := line.fates.map s.fateMark

/-- How many events wait for the feed. -/
def pending (line : Line) : Nat := line.bus.clouds.sent.size - line.feed.listener.position

/-- How many events were no clouds. -/
def ignored (s : Sentinel) (line : Line) : Nat := (line.marks s).count .stray

end Line

end CollisionWatch
