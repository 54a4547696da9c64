/-!
# Painted text

Text for a terminal may be bold, dimmed, underlined or coloured.  The marks that say so are written
only where they are wanted; where a painted text holds the mark that ends all painting, its own mark
follows again.

Pages of help are painted by rules of their own: each code has its own mark, and other variables of
the environment decide whether they are painted at all.
-/

namespace CollisionWatch.CommandLine

/-- A colour of the terminal. -/
inductive Colour where
  /-- Red. -/
  | red
  /-- Green. -/
  | green
  /-- Yellow. -/
  | yellow
  /-- Cyan. -/
  | cyan
  deriving Repr, DecidableEq

/-- The number of a colour. -/
def Colour.code : Colour → String
  | red => "31"
  | green => "32"
  | yellow => "33"
  | cyan => "36"

/-- How a text is painted. -/
structure Paint where
  /-- In bold. -/
  bold : Bool := false
  /-- Dimmed. -/
  dimmed : Bool := false
  /-- Underlined. -/
  underlined : Bool := false
  /-- In a colour. -/
  colour : Option Colour := none
  deriving Repr, DecidableEq

/-- The mark that ends all painting. -/
def plainMark : String := "\x1b[0m"

namespace Paint

/-- The codes of the painting. -/
def codes (p : Paint) : List String :=
  (if p.bold then ["1"] else []) ++ (if p.dimmed then ["2"] else []) ++
    (if p.underlined then ["4"] else []) ++ (p.colour.map Colour.code).toList

/-- The mark of some codes. -/
def markOf (codes : List String) : String := "\x1b[" ++ ";".intercalate codes ++ "m"

/-- The mark that starts the painting. -/
def mark (p : Paint) : String := markOf p.codes

/-- The painted text, if painting is wanted. -/
def apply (p : Paint) (wanted : Bool) (text : String) : String :=
  if wanted && p != {} then
    p.mark ++ (plainMark ++ p.mark).intercalate (text.splitOn plainMark) ++ plainMark
  else text

/-- The painted text, with a mark for every code and no regard to marks that the text holds. -/
def applyEach (p : Paint) (wanted : Bool) (text : String) : String :=
  if wanted && p != {} then
    String.join (p.codes.map fun code => markOf [code]) ++ text ++ plainMark
  else text

end Paint

/-- Painting is wanted: where the environment forces it, unless it forbids it, or on a terminal that
it does not declare colourless. -/
def wantsPaint (env : String → Option String) (terminal : Bool) : Bool :=
  if (env "CLICOLOR_FORCE").any (· != "0") then true
  else if (env "NO_COLOR").isSome then false
  else terminal && ((env "CLICOLOR").map (· != "0")).getD true

/-- A variable is set, and not to an empty text. -/
def isFilled (env : String → Option String) (name : String) : Bool := (env name).any (· != "")

/-- Painting is wanted on pages of help: unless the environment forbids it, where it forces it, or
on a terminal that it says can show colours. -/
def wantsPaintedHelp (env : String → Option String) (terminal : Bool) : Bool :=
  if isFilled env "NO_COLOR" then false
  else if isFilled env "CLICOLOR_FORCE" then true
  else if env "CLICOLOR" == some "0" then false
  else terminal &&
    ((env "TERM").any (· != "dumb") || (env "CLICOLOR").isSome || (env "CI").isSome)

/-! ## Brushes -/

/-- A way to paint. -/
abbrev Brush := Paint → String → String

namespace Brush

/-- The brush that paints nothing. -/
def none : Brush := fun _ text => text

/-- The brush for an environment and a terminal. -/
def of (env : String → Option String) (terminal : Bool) : Brush := fun paint text =>
  paint.apply (wantsPaint env terminal) text

/-- The brush for pages of help. -/
def ofHelp (env : String → Option String) (terminal : Bool) : Brush := fun paint text =>
  paint.applyEach (wantsPaintedHelp env terminal) text

end Brush

/-- In bold. -/
def strong : Paint := { bold := true }

end CollisionWatch.CommandLine
