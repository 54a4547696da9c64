/-!
# Crashes

A crash ends a run without an answer.  It is not an error that a caller is told about, but a
situation that the program takes for impossible: each constructor names one.
-/

namespace CollisionWatch

/-- Why a run ends without an answer. -/
inductive Crash where
  /-- The samples of a link are not in the order of their stamps. -/
  | disorderedSamples
  /-- No channel can hold this many events. -/
  | channelCapacity
  /-- A number of seconds is no duration: negative, not a number, or too large. -/
  | noDuration
  /-- A timer with this period would never rest. -/
  | emptyPeriod
  /-- A running total outgrows its word. -/
  | totalOverflow
  /-- A string has more quotes in a row than can be counted. -/
  | quoteRun
  deriving Repr, DecidableEq

end CollisionWatch
