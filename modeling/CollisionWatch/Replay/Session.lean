import CollisionWatch.Monitor.Brake
import CollisionWatch.Replay.Forward
import CollisionWatch.Sentinel.Feed

/-!
# Replaying a log

A session is a whole watch fed from a recorded log: the clouds reach a sentinel through its feed, the
sentinel's verdicts reach a brake monitor, and whoever looks at the status is told when the emergency
stop is requested or released.

`timetable` says when each cloud is sent: a log without a rate all at once, one with a rate no faster
than that many clouds in a second, where the first second's clouds may come together.  A round of the
monitor follows at the first of its ticks that finds clouds arrived.
-/

namespace CollisionWatch.Replay

/-- A watch that replays a log. -/
structure Session where
  /-- The bus of the clouds, and how many were sent. -/
  progress : Progress
  /-- The sentinel and its supply; its bus carries the verdicts. -/
  feed : Feed
  /-- The monitor of the verdicts. -/
  monitor : BrakeMonitor
  /-- The status. -/
  board : StatusBoard := .ofNames [BrakeMonitor.component]
  /-- The emergency stop was requested when last looked at. -/
  shown : Bool := false

namespace Session

/-- A watch that is ready for its first cloud. -/
def start (sentinel : Sentinel) (period : Duration) : Session :=
  let (listener, clouds) := Bus.usual.subscribe .pointCloud
  let (monitor, verdicts) := BrakeMonitor.create Bus.usual period
  { progress := { bus := clouds }, feed := { sentinel, listener, output := verdicts }, monitor }

/-- The session after one more cloud, all of it handled. -/
def send (s : Session) (cloud : Cloud) (stamp : Stamp) : Except Crash Session := do
  let progress := forwardOne s.progress cloud stamp
  let (feed, _) ← s.feed.settle progress.bus false fun _ => stamp
  return { s with progress, feed }

/-- The session after a round, and the news: a message if the stop was requested, none if it was
released. -/
def round (s : Session) (time : Float) : Session × Option (Option String) :=
  let (monitor, board, _) := s.monitor.round s.feed.output s.board time
  let s := { s with monitor, board }
  match board.snapshot with
  | .error _ => (s, none)
  | .ok status =>
    if status.stop = s.shown then (s, none)
    else
      ({ s with shown := status.stop },
        some (if status.stop then some (status.message.getD "") else none))

end Session

/-- When the clouds of a log are sent, in nanoseconds from the start. -/
def timetable (rate : Nat) (clouds : List Cloud) : List (Nat × Cloud) :=
  clouds.zipIdx.map fun (cloud, i) =>
    (if rate = 0 then 0 else (i + 1 - rate) * nanosecondsPerSecond / rate, cloud)

/-- The first tick of a period at or after a time. -/
def tickAfter (period time : Nat) : Nat := (time + period - 1) / period * period

/-- News of the status, and when it came. -/
structure News where
  /-- Nanoseconds from the start. -/
  time : Nat
  /-- What passengers are told, or none when the way is clear. -/
  message : Option String

/-- A round at a tick, with the news it brings. -/
def roundAt (tick : Nat) (s : Session) : Session × List News :=
  let (s, news) := s.round (tick.toFloat / nanosecondsPerSecond.toFloat)
  (s, (news.map (News.mk tick)).toList)

/-- Play clouds by their times: those that arrive by one tick together, then a round. -/
def play (period : Nat) (stamps : Nat → Stamp) :
    List (Nat × Cloud) → Nat → Session → Except Crash (Session × List News)
  | [], tick, s => .ok (roundAt tick s)
  | (time, cloud) :: rest, tick, s => do
    let next := tickAfter period time
    let (s, news) := if tick < next then roundAt tick s else (s, [])
    let s ← s.send cloud (stamps rest.length)
    let (s, more) ← play period stamps rest (max tick next) s
    return (s, news ++ more)

end CollisionWatch.Replay
