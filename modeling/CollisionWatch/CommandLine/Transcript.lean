/-!
# Transcripts

A transcript is all that a run of the program writes, and the code it exits with.  Most runs write
everything at once; a replay writes news when they come, so every text has its time.
-/

namespace CollisionWatch.CommandLine

/-- Where a text goes. -/
inductive Outlet where
  /-- To whoever asked. -/
  | answers
  /-- To whoever looks after errors. -/
  | errors
  deriving Repr, DecidableEq

/-- A text that is written. -/
structure Utterance where
  /-- Nanoseconds from the start. -/
  time : Nat := 0
  /-- Where it goes. -/
  outlet : Outlet := .answers
  /-- The text. -/
  text : String
  deriving Repr, DecidableEq

/-- All that texts say to an outlet. -/
def textTo (outlet : Outlet) (utterances : List Utterance) : String :=
  String.join ((utterances.filter (·.outlet == outlet)).map (·.text))

/-- All that a run writes, and its exit code. -/
structure Transcript where
  /-- The texts, in order. -/
  utterances : List Utterance
  /-- The exit code. -/
  exit : UInt32 := 0
  deriving Repr, DecidableEq

namespace Transcript

/-- A run that writes one text and succeeds. -/
def ofText (text : String) : Transcript := { utterances := [{ text }] }

/-- The run with texts in front. -/
def after (t : Transcript) (before : List Utterance) : Transcript :=
  { t with utterances := before ++ t.utterances }

/-- All that goes to an outlet. -/
def text (t : Transcript) (outlet : Outlet) : String := textTo outlet t.utterances

end Transcript

end CollisionWatch.CommandLine
