import CollisionWatch.Text.Quoted

/-!
# Outlines of values

An outline shows a value for a reader: a record by its name with a line for every field, a list with
a line for every item, four spaces deeper than what they belong to and with a comma after each.  A
list of nothing stays on its line.
-/

namespace CollisionWatch.Text

/-- A value as a reader sees it. -/
inductive Outline where
  /-- A value without parts, as it is written. -/
  | plain (text : String)
  /-- A list. -/
  | list (items : List Outline)
  /-- A record with named fields. -/
  | record (name : String) (fields : List (String × Outline))
  deriving Repr

namespace Outline

/-- A name between quotes. -/
def ofName (name : String) : Outline := .plain (quoted name)

/-- A number without a point. -/
def ofNat (n : Nat) : Outline := .plain (toString n)

/-- A line end and the blanks before the next line's text. -/
def newLine (depth : Nat) : String := "\n" ++ String.ofList (List.replicate (4 * depth) ' ')

mutual

/-- An outline whose parts stand at `depth + 1`. -/
def render (depth : Nat) : Outline → String
  | .plain text => text
  | .list [] => "[]"
  | .list (item :: rest) =>
    "[" ++ (newLine (depth + 1) ++ render (depth + 1) item ++ ",") ++ renderItems depth rest ++
      newLine depth ++ "]"
  | .record name fields =>
    name ++ " \x7b" ++ renderFields depth fields ++ newLine depth ++ "\x7d"

/-- The lines of items. -/
def renderItems (depth : Nat) : List Outline → String
  | [] => ""
  | item :: rest =>
    newLine (depth + 1) ++ render (depth + 1) item ++ "," ++ renderItems depth rest

/-- The lines of fields. -/
def renderFields (depth : Nat) : List (String × Outline) → String
  | [] => ""
  | field :: rest =>
    newLine (depth + 1) ++ renderField (depth + 1) field ++ "," ++ renderFields depth rest

/-- A field with its name. -/
def renderField (depth : Nat) : String × Outline → String
  | (name, value) => name ++ ": " ++ render depth value

end

/-- The text of an outline. -/
def text (outline : Outline) : String := outline.render 0

end Outline

end CollisionWatch.Text
