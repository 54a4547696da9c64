import CollisionWatch.CommandLine.Help
import CollisionWatch.CommandLine.Paint
import CollisionWatch.Sentinel.Basic
import CollisionWatch.Settings.Outline

/-!
# What the program tells

The texts of the commands, painted with a brush that either paints or leaves texts as they are.
-/

namespace CollisionWatch.CommandLine

/-- In a colour. -/
def coloured (colour : Colour) : Paint := { colour := some colour }

/-- In bold, in a colour. -/
def strongColoured (colour : Colour) : Paint := { bold := true, colour := some colour }

variable (brush : Brush)

/-! ## Settings -/

/-- An error. -/
def errorLine (message : String) : String :=
  brush (strongColoured .red) "Error" ++ ": " ++ message ++ "\n"

/-- A note about something that is not quite as expected. -/
def noteLine (message : String) : String :=
  "  " ++ brush (coloured .yellow) "Note:" ++ " " ++ message ++ "\n"

/-- Settings were saved. -/
def savedLine (path : String) : String :=
  "  " ++ brush (strongColoured .green) "✓" ++ " Config saved to " ++ brush strong path ++ "\n"

/-- There is a settings file already. -/
def existsMessage (path : String) : String := path ++ " already exists (use --force to overwrite)"

/-- Settings were loaded. -/
def loadedLine (path : String) : String := "  Config loaded from " ++ brush strong path ++ "\n"

/-- There is no settings file. -/
def missingLine (path : String) : String := noteLine brush (path ++ " not found, using defaults.")

/-- Settings make no sense. -/
def defectMessage (defect : Settings.Defect) : String :=
  "Invalid configuration: " ++ defect.message

/-- The settings, found in order. -/
def checkedText (s : Settings) : String :=
  brush (strongColoured .green) "Config OK:" ++ " " ++ s.outline.text ++ "\n"

/-! ## The start of a replay -/

/-- A line of the banner and the titles. -/
def titleLine (text : String) : String := brush (strongColoured .cyan) text ++ "\n"

/-- A rule between the parts. -/
def ruleLine : String := brush strong (String.ofList (List.replicate 39 '═')) ++ "\n"

/-- The banner. -/
def banner : String :=
  let edge := String.ofList (List.replicate 38 '═')
  "\n" ++ titleLine brush ("  ╔" ++ edge ++ "╗") ++
    titleLine brush "  ║      LiDAR Collision Guardian        ║" ++
    titleLine brush ("  ╚" ++ edge ++ "╝") ++
    "  " ++ brush strong programName ++ " " ++
    brush { dimmed := true } ("v" ++ programVersion) ++ "\n\n"

/-- The title of the steps. -/
def stepsTitle : String :=
  ruleLine brush ++ titleLine brush "         Guardian Boot Sequence        " ++ ruleLine brush

/-- One of four steps begins. -/
def stepStart (number : Nat) (label : String) : String :=
  "  [" ++ toString number ++ "/4] " ++ brush strong label ++ " … "

/-- A step is done. -/
def stepDone : String := brush (coloured .green) "OK"

/-- The bus is there. -/
def busStep : String := stepStart brush 1 "Initializing Event Bus" ++ stepDone brush ++ "\n"

/-- The mounts are there; none of them may have to do with the vehicle. -/
def mountStep (s : Settings) : String :=
  stepStart brush 2 "Loading sensor transforms" ++ stepDone brush ++ " (" ++
    toString s.mounts.length ++ " mount(s))\n" ++
    (if s.tree.hasFrame s.vehicle then ""
     else noteLine brush ("no transform reaches vehicle frame " ++ brush strong s.vehicle))

/-- The sentinel starts. -/
def sentinelStep : String := stepStart brush 3 "Starting collision guardian"

/-- The monitor starts. -/
def monitorStep : String := stepStart brush 4 "Starting collision monitor"

/-- The replay starts. -/
def replayLine (log : String) (rate : Nat) (topic : String) : String :=
  "  " ++ brush (strongColoured .green) "▶" ++ " Replaying " ++ brush strong log ++ " (" ++
    (if rate = 0 then "unpaced" else toString rate ++ " fps") ++ "), reporting as " ++
    brush (coloured .cyan) topic ++ "\n"

/-! ## The course of a replay -/

/-- The emergency stop was requested, with what passengers are told, or released. -/
def newsLine : Option String → String
  | some message =>
    "  " ++ brush (coloured .red) "🔴" ++ " " ++ brush (strongColoured .red) message ++ "\n"
  | none =>
    "  " ++ brush (coloured .green) "🟢" ++ " " ++ brush (coloured .green) "Path clear" ++ "\n"

/-- A line of the summary: a label of nineteen characters at most, and a number. -/
def totalLine (label : String) (total : Nat) : String :=
  let gap := List.replicate (20 - label.length) ' '
  "  " ++ label ++ String.ofList gap ++ toString total ++ "\n"

/-- The summary: the clouds that were sent, and the sentinel's totals. -/
def summary (forwarded : Nat) (stats : Stats) : String :=
  "\n" ++ brush { bold := true, underlined := true } "Summary" ++ "\n" ++
    totalLine "frames forwarded" forwarded ++
    totalLine "frames evaluated" stats.evaluated.toNat ++
    totalLine "transform failures" stats.unresolved.toNat ++
    totalLine "frames lost to lag" stats.lost.toNat ++
    totalLine "collision signals" stats.collisions.toNat

/-- A run broke off. -/
def crashLine : Crash → String
  | .disorderedSamples => "broken off: samples are not in the order of their stamps\n"
  | .channelCapacity => "broken off: no channel can hold this many events\n"
  | .noDuration => "broken off: the monitor interval is no duration\n"
  | .emptyPeriod => "broken off: the monitor interval is too short\n"
  | .totalOverflow => "broken off: a total is too large\n"
  | .quoteRun => "broken off: too many quotes in a row\n"

end CollisionWatch.CommandLine
