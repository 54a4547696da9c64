import CollisionWatch.Decimal.Reading
import CollisionWatch.Settings.Basic

/-!
# Settings from the environment

Four variables override settings.  One that cannot be read leaves its setting alone.
-/

namespace CollisionWatch.Settings

/-- The variables of the environment. -/
abbrev Environment := String → Option String

/-- The settings with those of the environment. -/
def override (s : Settings) (env : Environment) : Settings :=
  let word? (name : String) : Option UInt32 :=
    ((env name).bind (Decimal.readNat? UInt32.size)).map Nat.toUInt32
  { s with
    vehicle := (env "GUARDIAN_VEHICLE_FRAME").getD s.vehicle
    interval := ((env "GUARDIAN_MONITOR_INTERVAL").bind Decimal.readDouble?).getD s.interval
    thresholds := { s.thresholds with
      minPoints := (word? "GUARDIAN_MIN_POINTS").getD s.thresholds.minPoints
      minFrames := (word? "GUARDIAN_MIN_FRAMES").getD s.thresholds.minFrames } }

end CollisionWatch.Settings
