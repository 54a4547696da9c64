import CollisionWatch.Json.Reader
import CollisionWatch.Notice
import CollisionWatch.Text.Blank
import CollisionWatch.Text.Lines
import CollisionWatch.Wire.Event

/-!
# Frame logs

A frame log holds one cloud a line, as JSON.  Blank lines and lines whose first visible character is
`#` are passed over; a line that is no cloud is reported by its number and passed over too, so one
corrupt record does not end the log.
-/

namespace CollisionWatch

/-- What a line of a frame log holds. -/
inductive LogLine where
  /-- Nothing, or a comment. -/
  | skipped
  /-- A cloud. -/
  | cloud (cloud : Cloud)
  /-- Something else. -/
  | malformed
  deriving Repr

namespace LogLine

/-- What a line holds. -/
def read (line : List Char) : LogLine :=
  match Text.trimStart line with
  | [] => skipped
  | '#' :: _ => skipped
  | _ =>
    match (Json.readChars? line).bind Wire.cloud? with
    | some c => cloud c
    | none => malformed

/-- The cloud of a line. -/
def cloud? : LogLine → Option Cloud
  | cloud c => some c
  | _ => none

/-- The line is malformed. -/
def isMalformed : LogLine → Bool
  | malformed => true
  | _ => false

end LogLine

/-- The content of a frame log. -/
structure FrameLog where
  /-- Its lines. -/
  lines : List LogLine
  deriving Repr

namespace FrameLog

/-- The frame log of a text. -/
def read (text : String) : FrameLog := ⟨(Text.lines text.toList).map LogLine.read⟩

/-- The clouds in order. -/
def clouds (log : FrameLog) : List Cloud := log.lines.filterMap LogLine.cloud?

/-- The numbers of the malformed lines, from one. -/
def malformed (log : FrameLog) : List Nat :=
  (log.lines.zipIdx 1).filterMap fun (line, number) =>
    if line.isMalformed then some number else none

/-- The notices about the malformed lines. -/
def notices (log : FrameLog) : List Notice := log.malformed.map fun _ => .malformedRecord

end FrameLog

end CollisionWatch
