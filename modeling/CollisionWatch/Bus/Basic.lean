import CollisionWatch.Bus.Channel
import CollisionWatch.Event
import CollisionWatch.Fault

/-!
# The bus

The bus carries events under two topics, each with a channel of its own.  Any event may be published
under any topic.  The bus is shared by handles; when the last one is dropped, both topics close.
-/

namespace CollisionWatch

/-- What a listener asks for. -/
inductive Topic where
  /-- Clouds from the sensors. -/
  | pointCloud
  /-- Verdicts on them. -/
  | collisionWarning
  deriving Repr, DecidableEq

namespace Topic

/-- The topic in messages. -/
def text : Topic → String
  | pointCloud => "PointCloud"
  | collisionWarning => "CollisionWarning"

end Topic

/-- A pair of channels. -/
structure Bus where
  /-- The channel of the clouds. -/
  clouds : Channel Event
  /-- The channel of the verdicts. -/
  verdicts : Channel Event
  /-- How many handles there are. -/
  handles : Nat := 1
  deriving Repr

/-- A listener of one topic. -/
structure Listener where
  /-- The topic. -/
  topic : Topic
  /-- The position in its channel. -/
  position : Nat
  deriving Repr, DecidableEq

namespace Bus

/-- How many events wait for a listener unless something else is asked for. -/
def usualCapacity : Nat := 256

/-- A bus whose topics both have this capacity. -/
def create (capacity : Nat) : Except Crash Bus := do
  let channel ← Channel.create capacity
  return { clouds := channel, verdicts := channel }

/-- A bus of the usual capacity. -/
def usual : Bus :=
  { clouds := { capacity := usualCapacity }, verdicts := { capacity := usualCapacity } }

/-- The channel of a topic. -/
def channel (bus : Bus) : Topic → Channel Event
  | .pointCloud => bus.clouds
  | .collisionWarning => bus.verdicts

/-- The bus with a change to the channel of a topic. -/
def modifyChannel (bus : Bus) (topic : Topic) (change : Channel Event → Channel Event) : Bus :=
  match topic with
  | .pointCloud => { bus with clouds := change bus.clouds }
  | .collisionWarning => { bus with verdicts := change bus.verdicts }

/-- A new listener of a topic. -/
def subscribe (bus : Bus) (topic : Topic) : Listener × Bus :=
  let (position, channel) := (bus.channel topic).subscribe
  (⟨topic, position⟩, bus.modifyChannel topic fun _ => channel)

/-- The bus without one of the listeners of a topic. -/
def unsubscribe (bus : Bus) (topic : Topic) : Bus := bus.modifyChannel topic Channel.unsubscribe

/-- Publish an event; the answer is the number of listeners.  An event that nobody listens to is not
sent at all. -/
def publish (bus : Bus) (topic : Topic) (event : Event) : Except Fault Nat × Bus :=
  let listeners := (bus.channel topic).listeners
  if listeners = 0 then
    (.error (.undelivered s!"no subscribers for topic {topic.text}"), bus)
  else (.ok listeners, bus.modifyChannel topic (·.send event))

/-- One more handle. -/
def addHandle (bus : Bus) : Bus := { bus with handles := bus.handles + 1 }

/-- One handle less; without any, nothing can be published again. -/
def dropHandle (bus : Bus) : Bus :=
  if bus.handles ≤ 1 then
    { handles := 0, clouds := { bus.clouds with isOpen := false },
      verdicts := { bus.verdicts with isOpen := false } }
  else { bus with handles := bus.handles - 1 }

end Bus

namespace Listener

/-- What the listener gets next. -/
def receive (listener : Listener) (bus : Bus) : Receipt Event × Listener :=
  let (receipt, position) := (bus.channel listener.topic).receive listener.position
  (receipt, { listener with position })

end Listener

end CollisionWatch
