import CollisionWatch.Duration
import CollisionWatch.Notice

/-!
# Schedules

A schedule runs named runners, each in its own interval.  The next round of a runner is measured
from the tick of its last one, so a late tick is not followed by a burst; a tick that comes a little
early, by no more than the runner's slack, still counts.  A runner that never ran is due at once.

The times of a schedule are any scalars that can be added, subtracted and compared; a running watch
uses doubles.
-/

namespace CollisionWatch

/-- A runner in a schedule. -/
structure Scheduled (τ : Type) where
  /-- Its name. -/
  name : String
  /-- The time between two rounds. -/
  interval : τ
  /-- How much too early a round may come. -/
  slack : τ
  /-- When the next round is due; none before the first one. -/
  next : Option τ := none
  /-- How many rounds there were, counted in a word. -/
  rounds : UInt64 := 0
  deriving Repr

/-- A list of runners in the order of their registration. -/
structure Schedule (τ : Type) where
  /-- The runners. -/
  runners : List (Scheduled τ) := []
  deriving Repr

namespace Scheduled

variable {τ : Type} [Add τ] [Sub τ] [LT τ] [DecidableLT τ]

/-- A tick at this time runs the runner. -/
def isDue (s : Scheduled τ) (time : τ) : Bool :=
  match s.next with
  | none => true
  | some next => !(s.slack < next - time)

/-- The runner after a tick. -/
def tick (s : Scheduled τ) (time : τ) : Scheduled τ :=
  if s.isDue time then { s with next := some (time + s.interval), rounds := s.rounds + 1 } else s

/-- A runner with an interval, and a tenth of it as slack. -/
def every (name : String) (interval : Duration) : Scheduled Float :=
  { name, interval := interval.toSeconds, slack := interval.toSeconds * 0.1 }

end Scheduled

namespace Schedule

section Ticks

variable {τ : Type}

/-- One more runner; it runs on the next tick. -/
def add (schedule : Schedule τ) (runner : Scheduled τ) : Schedule τ × List Notice :=
  ({ runners := schedule.runners ++ [runner] }, [.monitorRegistered])

/-- The rounds of the first runner of a name. -/
def rounds? (schedule : Schedule τ) (name : String) : Option UInt64 :=
  (schedule.runners.find? (·.name == name)).map (·.rounds)

variable [Add τ] [Sub τ] [LT τ] [DecidableLT τ]

/-- The runners that a tick runs, in order. -/
def due (schedule : Schedule τ) (time : τ) : List (Scheduled τ) :=
  schedule.runners.filter (·.isDue time)

/-- The schedule after a tick, and how many runners it ran. -/
def tick (schedule : Schedule τ) (time : τ) : Schedule τ × Nat :=
  ({ runners := schedule.runners.map (·.tick time) }, schedule.runners.countP (·.isDue time))

/-- A tick neither adds nor removes a runner. -/
theorem length_tick (schedule : Schedule τ) (time : τ) :
    (schedule.tick time).1.runners.length = schedule.runners.length :=
  List.length_map ..

end Ticks

/-! ## Ticking until told to stop -/

/-- Tick at the times of a clock, from its `count`-th on and at most `ticks` times, until the flag
is raised; the answer has the names of the runners in the order of their rounds.  The flag is looked
at between two ticks only, so a tick always reaches all runners that are due. -/
def run (clock : Nat → Float) (raised : Schedule Float → Bool) :
    Nat → Nat → Schedule Float → List String → Schedule Float × List String × List Notice
  | 0, _, schedule, calls => (schedule, calls, [])
  | ticks + 1, count, schedule, calls =>
    if raised schedule then (schedule, calls, [.schedulerStopped])
    else
      let time := clock count
      run clock raised ticks (count + 1) (schedule.tick time).1
        (calls ++ (schedule.due time).map (·.name))

end Schedule

end CollisionWatch
