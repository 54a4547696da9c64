import CollisionWatch.CommandLine.Program
import CollisionWatch.Files.Machine

/-!
# The command line

Carries out what the arguments ask for on this machine, and writes the transcript at its times.
-/

namespace CollisionWatch.CommandLine

/-- The environment of these variables. -/
def environmentOf (values : List (String × Option String)) : Settings.Environment := fun name =>
  (values.lookup name).join

/-- Wait until so many nanoseconds have gone by since a moment. -/
def waitUntil (start time : Nat) : IO Unit := do
  let gone := (← IO.monoNanosNow) - start
  IO.sleep ((time - gone) / 1000000).toUInt32

/-- Write a text at its time. -/
def write (start : Nat) (u : Utterance) : IO Unit := do
  waitUntil start u.time
  let outlet ← match u.outlet with
    | .answers => IO.getStdout
    | .errors => IO.getStderr
  outlet.putStr u.text
  outlet.flush

/-- Run the program here and now. -/
def perform (arguments : List String) : IO UInt32 := do
  let start ← IO.monoNanosNow
  let values ← environmentNames.mapM fun name => return (name, ← IO.getEnv name)
  let terminal ← (← IO.getStdout).isTty
  let transcript ← run { env := environmentOf values, terminal } arguments
  transcript.utterances.forM (write start)
  return transcript.exit

end CollisionWatch.CommandLine

/-- The program. -/
def main (arguments : List String) : IO UInt32 := CollisionWatch.CommandLine.perform arguments
