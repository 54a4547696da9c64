import CollisionWatch.Text.Blank

/-!
# Formats of the log

The log is written compactly, or as JSON where the environment asks for it, in any case and between
any blanks.
-/

namespace CollisionWatch

/-- How the log is written. -/
inductive LogFormat where
  /-- A line of text for each notice. -/
  | compact
  /-- A JSON object for each notice. -/
  | json
  deriving Repr, DecidableEq

namespace LogFormat

/-- The name of the format. -/
def text : LogFormat → String
  | compact => "Compact"
  | json => "Json"

/-- The format that a value of the environment asks for. -/
def ofSetting : Option String → LogFormat
  | some value =>
    if (Text.trim value.toList).map Char.toLower = ['j', 's', 'o', 'n'] then json else compact
  | none => compact

end LogFormat

end CollisionWatch
