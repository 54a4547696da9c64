import CollisionWatch.Sentinel.Basic

/-!
# The feed of a sentinel

A feed hands the clouds of a bus to a sentinel, in order, until the bus closes or a shutdown is
raised.  The shutdown is looked at between two receives; a feed that already waits for an event goes
on waiting until one comes, the bus closes, or its patience ends.  A lag makes the sentinel discard
its streak.  Verdicts go to a bus of their own.
-/

namespace CollisionWatch

/-- Where a feed stands. -/
inductive FeedPhase where
  /-- It has not begun. -/
  | fresh
  /-- Between two receives. -/
  | ready
  /-- Waiting for an event. -/
  | waiting
  /-- It has ended. -/
  | stopped
  deriving Repr, DecidableEq

/-- A sentinel with its supply of clouds. -/
structure Feed where
  /-- The sentinel. -/
  sentinel : Sentinel
  /-- The listener of the clouds. -/
  listener : Listener
  /-- The bus of the verdicts. -/
  output : Bus
  /-- Where the feed stands. -/
  phase : FeedPhase := .fresh

namespace Feed

/-- The feed at its end. -/
def stop (feed : Feed) : Feed × List Notice := ({ feed with phase := .stopped }, [.feedStopped])

/-- The feed after an event. -/
def accept (feed : Feed) (event : Event) (stamp : Stamp) : Except Crash (Feed × List Notice) :=
  match event.payload with
  | .cloud cloud => do
    let ⟨sentinel, listener, output, _⟩ := feed
    let outcome ← sentinel.process cloud output stamp
    return (⟨outcome.sentinel, listener, outcome.bus, .ready⟩, outcome.notices)
  | .verdict _ => .ok ({ feed with phase := .ready }, [])

/-- The feed after a look at the bus. -/
def receive (feed : Feed) (bus : Bus) (stamp : Stamp) : Except Crash (Feed × List Notice) :=
  match feed.listener.receive bus with
  | (.pending, _) => .ok ({ feed with phase := .waiting }, [])
  | (.closed, _) =>
    let (feed, notices) := feed.stop
    .ok (feed, .feedClosed :: notices)
  | (.lagged count, listener) => do
    let (sentinel, notices) ← feed.sentinel.discardStreak count.toUInt64
    return ({ feed with sentinel, listener, phase := .ready }, .feedLagged :: notices)
  | (.event event, listener) => { feed with listener }.accept event stamp

/-- One step of the feed. -/
def step (feed : Feed) (bus : Bus) (shutdown : Bool) (stamp : Stamp) :
    Except Crash (Feed × List Notice) :=
  match feed.phase with
  | .fresh => .ok ({ feed with phase := .ready }, [.feedStarted])
  | .ready => if shutdown then .ok feed.stop else feed.receive bus stamp
  | .waiting => feed.receive bus stamp
  | .stopped => .ok (feed, [])

/-- The feed when its patience ends: it looks at the shutdown again. -/
def wake (feed : Feed) : Feed :=
  if feed.phase = .waiting then { feed with phase := .ready } else feed

/-- The feed waits for something that is not there, or has ended. -/
def isIdle (feed : Feed) (bus : Bus) : Bool :=
  match feed.phase with
  | .stopped => true
  | .waiting =>
    match (feed.listener.receive bus).1 with
    | .pending => true
    | _ => false
  | _ => false

/-- At most `steps` steps, until the feed is idle. -/
def steps (bus : Bus) (shutdown : Bool) (stamps : Nat → Stamp) :
    Nat → Feed → Except Crash (Feed × List Notice)
  | 0, feed => .ok (feed, [])
  | n + 1, feed =>
    if feed.isIdle bus then .ok (feed, [])
    else do
      let (feed, first) ← feed.step bus shutdown (stamps n)
      let (feed, rest) ← steps bus shutdown stamps n feed
      return (feed, first ++ rest)

/-- The feed after everything that waits for it: a step for each event that it has not seen, and a
few to begin, to lag and to end. -/
def settle (feed : Feed) (bus : Bus) (shutdown : Bool) (stamps : Nat → Stamp) :
    Except Crash (Feed × List Notice) :=
  let waiting := (bus.channel feed.listener.topic).sent.size - feed.listener.position
  steps bus shutdown stamps (waiting + 4) feed

end Feed

end CollisionWatch
