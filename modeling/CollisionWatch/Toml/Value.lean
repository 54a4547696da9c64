/-!
# TOML values

What a TOML document says once it has been read: a table of named values.  Dates and times are kept
only as such, since nothing here asks for their content.
-/

namespace CollisionWatch.Toml

/-- A value of a document. -/
inductive Value where
  /-- A string. -/
  | string (text : String)
  /-- An integer of sixty-four bits. -/
  | integer (n : Int)
  /-- A float. -/
  | float (x : Float)
  /-- A truth value. -/
  | boolean (truth : Bool)
  /-- A date, a time of day, or both. -/
  | dateTime
  /-- A list of values. -/
  | array (items : List Value)
  /-- Named values. -/
  | table (entries : List (String × Value))

/-- The entries of a table. -/
abbrev Entries := List (String × Value)

end CollisionWatch.Toml
