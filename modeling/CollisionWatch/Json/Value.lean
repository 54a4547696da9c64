import CollisionWatch.Decimal.Numeral

/-!
# JSON values

A `Value` is what a JSON text says, kept close to the text: numbers stay as written, the members of
an object stay in their order with repeated names, and a string whose escapes name half a surrogate
pair is a value that no string equals.  What such a value is worth as a number, a name or a record
is decided by its reader (`CollisionWatch.Json.Number`, `CollisionWatch.Json.Record`).
-/

namespace CollisionWatch.Json

open Decimal (Numeral)

/-- A JSON value. -/
inductive Value where
  /-- The literal `null`. -/
  | null
  /-- A truth value. -/
  | bool (truth : Bool)
  /-- A number as written. -/
  | number (numeral : Numeral)
  /-- A string. -/
  | string (text : String)
  /-- A string whose escapes spell no text. -/
  | brokenString
  /-- A list of values. -/
  | array (items : List Value)
  /-- Named values in the order of the text; a broken name is `none`. -/
  | object (members : List (Option String × Value))
  deriving Repr, BEq

namespace Value

/-- An object with sound names. -/
def ofMembers (members : List (String × Value)) : Value :=
  .object (members.map fun (name, value) => (some name, value))

/-- A natural number. -/
def ofNat (n : Nat) : Value := .number (.ofNat n)

/-- The value, or `null` for none. -/
def ofOption {α : Type} (value : α → Value) : Option α → Value
  | some a => value a
  | none => .null

/-- A list of strings. -/
def ofStrings (texts : List String) : Value := .array (texts.map .string)

/-- The last member with this name. -/
def member? (v : Value) (name : String) : Option Value :=
  match v with
  | .object members => (members.reverse.find? fun m => m.1 == some name).map (·.2)
  | _ => none

/-- The text of a string. -/
def text? : Value → Option String
  | .string text => some text
  | _ => none

/-- The truth value. -/
def bool? : Value → Option Bool
  | .bool truth => some truth
  | _ => none

/-- The items of a list. -/
def items? : Value → Option (List Value)
  | .array items => some items
  | _ => none

end Value

end CollisionWatch.Json
