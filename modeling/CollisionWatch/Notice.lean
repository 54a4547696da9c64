/-!
# Notices

What the watch tells its operator while it runs, without the details of the moment.  A notice has a
level; only these levels are kept, so nothing here is mere chatter.
-/

namespace CollisionWatch

/-- A message to the operator. -/
inductive Notice where
  /-- An observer missed events. -/
  | observerLagged
  /-- A cloud reached nobody. -/
  | cloudDropped
  /-- A line of a frame log could not be read. -/
  | malformedRecord
  /-- A frame log was read. -/
  | logLoaded
  /-- The emergency stop was requested. -/
  | brakingRequested
  /-- The emergency stop was released. -/
  | brakingReleased
  /-- The safety status could not be written. -/
  | statusNotUpdated
  /-- A runner joined the schedule. -/
  | monitorRegistered
  /-- The schedule ended. -/
  | schedulerStopped
  /-- A sentinel is ready. -/
  | sentinelReady
  /-- A cloud has no sound time of capture. -/
  | captureTimeInvalid
  /-- No motion takes a cloud into the vehicle's frame. -/
  | transformMissing
  /-- The risk has become, or still is, persistent. -/
  | riskPersistent
  /-- A verdict reached nobody. -/
  | verdictNotDelivered
  /-- A streak ended because clouds were lost. -/
  | streakDiscarded
  /-- A feed started. -/
  | feedStarted
  /-- A feed missed clouds. -/
  | feedLagged
  /-- The topic of a feed is closed. -/
  | feedClosed
  /-- A feed ended. -/
  | feedStopped
  deriving Repr, DecidableEq

/-- How much a notice matters. -/
inductive NoticeLevel where
  /-- Worth knowing. -/
  | info
  /-- Worth a look. -/
  | warn
  /-- Something failed. -/
  | error
  deriving Repr, DecidableEq

namespace NoticeLevel

/-- The level in capitals. -/
def text : NoticeLevel → String
  | info => "INFO"
  | warn => "WARN"
  | error => "ERROR"

end NoticeLevel

namespace Notice

/-- How much the notice matters. -/
def level : Notice → NoticeLevel
  | observerLagged | cloudDropped | malformedRecord | brakingRequested | riskPersistent
  | verdictNotDelivered | streakDiscarded | feedLagged => .warn
  | statusNotUpdated | captureTimeInvalid | transformMissing => .error
  | logLoaded | brakingReleased | monitorRegistered | schedulerStopped | sentinelReady
  | feedStarted | feedClosed | feedStopped => .info

/-- The notice in words. -/
def message : Notice → String
  | observerLagged => "LatestObserver lagged"
  | cloudDropped => "point cloud frame dropped"
  | malformedRecord => "skipping malformed frame record"
  | logLoaded => "frame log loaded"
  | brakingRequested => "emergency braking requested"
  | brakingReleased => "collision cleared, emergency braking released"
  | statusNotUpdated => "failed to update safety status"
  | monitorRegistered => "monitor registered"
  | schedulerStopped => "monitor scheduler stopped"
  | sentinelReady => "collision guardian initialised"
  | captureTimeInvalid => "frame dropped: capture time is not a finite number"
  | transformMissing => "frame dropped: no sensor transform"
  | riskPersistent => "persistent collision risk detected"
  | verdictNotDelivered => "collision signal not delivered"
  | streakDiscarded => "frames lost, consecutive-risk streak discarded"
  | feedStarted => "collision node started"
  | feedLagged => "collision node lagged behind the sensor"
  | feedClosed => "point cloud topic closed"
  | feedStopped => "collision node stopped"

/-- The line of the notice in a log. -/
def line (n : Notice) : String := n.level.text ++ " " ++ n.message

end Notice

end CollisionWatch
