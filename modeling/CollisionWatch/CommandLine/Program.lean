import CollisionWatch.CommandLine.Transcript
import CollisionWatch.CommandLine.Wording
import CollisionWatch.Replay.Session
import CollisionWatch.Settings.Schema
import CollisionWatch.Settings.Storage

/-!
# The program

`run` carries out what the arguments ask for, over any place that keeps files, and answers with the
transcript.  A run that cannot do what it was asked for exits with one, one that does not understand
the arguments with two, and one that breaks off with a hundred and one.
-/

namespace CollisionWatch.CommandLine

/-- Where the program runs. -/
structure Surroundings where
  /-- The environment. -/
  env : Settings.Environment
  /-- Answers go to a terminal. -/
  terminal : Bool := false

/-- The brush of the surroundings. -/
def Surroundings.brush (s : Surroundings) : Brush := .of s.env s.terminal

/-- The brush of the surroundings for pages of help. -/
def Surroundings.helpBrush (s : Surroundings) : Brush := .ofHelp s.env s.terminal

/-- The variables of the environment that matter. -/
def environmentNames : List String :=
  ["HOME", "USERPROFILE", "GUARDIAN_VEHICLE_FRAME", "GUARDIAN_MONITOR_INTERVAL",
    "GUARDIAN_MIN_POINTS", "GUARDIAN_MIN_FRAMES", "CLICOLOR", "CLICOLOR_FORCE", "NO_COLOR",
    "TERM", "CI"]

namespace Transcript

/-- A run that fails at a time. -/
def failure (brush : Brush) (message : String) (time : Nat := 0) : Transcript where
  utterances := [{ time, outlet := .errors, text := errorLine brush message }]
  exit := 1

/-- A run that breaks off. -/
def crash (c : Crash) (time : Nat := 0) : Transcript where
  utterances := [{ time, outlet := .errors, text := crashLine c }]
  exit := 101

/-- A run that makes no sense. -/
def misuse : Transcript where
  utterances := [{ outlet := .errors, text := programHelp.text .none }]
  exit := 2

end Transcript

/-! ## A replay -/

/-- How many rounds of the monitor follow the last cloud, so that its verdict shows. -/
def roundsAfter : Nat := 3

/-- The stamp of an event of a replay; nothing that a replay tells depends on it. -/
def replayStamp (n : Nat) : Stamp := ⟨BitVec.ofNat 128 n, ⟨0, 0⟩⟩

/-- A replay with a monitor of this period, from the first cloud on. -/
def playTranscript (brush : Brush) (sentinel : Sentinel) (period : Duration) (rate : Nat)
    (opened : Except Fault (List Cloud)) : Transcript :=
  let clouds := opened.toOption.getD []
  let timed := Replay.timetable rate clouds
  let last := ((timed.getLast?).map (·.1)).getD 0
  if period.nanoseconds = 0 then
    .failure brush "monitor scheduler failed: the period is empty" last
  else
    match Replay.play period.nanoseconds replayStamp timed 0 (.start sentinel period) with
    | .error c => .crash c last
    | .ok (session, news) =>
      let news := news.map fun n => { time := n.time, text := newsLine brush n.message : Utterance }
      match period.times roundsAfter with
      | .error c => (Transcript.crash c last).after news
      | .ok pause =>
        let time := last + pause.nanoseconds
        let ending : Transcript :=
          match opened with
          | .error fault => .failure brush fault.message time
          | .ok _ =>
            let text := summary brush session.progress.delivered session.feed.sentinel.stats
            { utterances := [{ time, text }] }
        ending.after news

/-- A replay with checked settings. -/
def replayTranscript (brush : Brush) (s : Settings) (log : String) (rate : Nat)
    (opened : Except Fault (List Cloud)) : Transcript :=
  let opening := banner brush ++ stepsTitle brush ++ busStep brush ++ mountStep brush s ++
    sentinelStep brush
  match Sentinel.create s.thresholds s.vehicle s.tree with
  | .error fault => (Transcript.failure brush fault.message).after [{ text := opening }]
  | .ok sentinel =>
    let opening := opening ++ stepDone brush ++ "\n" ++ monitorStep brush
    match s.period with
    | .error c => (Transcript.crash c).after [{ text := opening }]
    | .ok period =>
      let opening := opening ++ stepDone brush ++ "\n" ++ ruleLine brush ++
        replayLine brush log rate s.topic
      (playTranscript brush sentinel period rate opened).after [{ text := opening }]

/-! ## Commands -/

section Commands

variable {m : Type → Type} [Monad m] [Files.FileStore m] (here : Surroundings)

/-- The path of the settings file. -/
def settingsPath (config : Option String) : String :=
  config.getD (Settings.usualPath here.env)

/-- Write the usual settings. -/
def runInit (path : String) (force : Bool) : m Transcript := do
  if (← Files.pathExists path) && !force then
    return .failure here.brush (existsMessage path)
  match ← Settings.standard.save path with
  | .error c => return .crash c
  | .ok (.error e) => return .failure here.brush e.message
  | .ok (.ok ()) => return .ofText (savedLine here.brush path)

/-- Load the settings, check them, and go on with them. -/
def withSettings (path : String) (next : Settings → m Transcript) : m Transcript := do
  match ← Settings.load? path here.env with
  | .error e => return .failure here.brush e.message
  | .ok loaded =>
    let (line, s) := match loaded with
      | some s => (loadedLine here.brush path, s)
      | none => (missingLine here.brush path, Settings.standard.override here.env)
    let rest ← match s.defect? with
      | some defect => pure (.failure here.brush (defectMessage defect))
      | none => next s
    return rest.after [{ text := line }]

/-- Show the settings. -/
def runCheck (path : String) : m Transcript :=
  withSettings here path fun s => return .ofText (checkedText here.brush s)

/-- Replay a log. -/
def runReplay (path log : String) (rate : Nat) : m Transcript :=
  withSettings here path fun s => do
    let opened ← Replay.openLog log
    return replayTranscript here.brush s log rate (opened.map (·.1))

/-- Carry out a request. -/
def runRequest : Request → m Transcript
  | .run config (.init force) => runInit here (settingsPath here config) force
  | .run config .check => runCheck here (settingsPath here config)
  | .run _ .schema => return .ofText (Settings.schema.pretty ++ "\n")
  | .run config (.replay log rate) => runReplay here (settingsPath here config) log rate
  | .help page => return .ofText (page.content.text here.helpBrush)
  | .version => return .ofText versionLine
  | .misuse => return .misuse

/-- Carry out what the arguments ask for. -/
def run (arguments : List String) : m Transcript := runRequest here (readRequest arguments)

end Commands

end CollisionWatch.CommandLine
