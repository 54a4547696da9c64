import CollisionWatch.Json.Value

/-!
# Records and variants in JSON

A record is an object with one member per field, or a list of its fields in order.  In an object the
members may stand in any order and unknown ones are passed over, but a field may not be named twice.
In a list fields may be missing from the end only, and nothing may follow the last field.

A variant of several is an object with one member, named for the variant, around its content.  A
variant without content may also be written as its name alone.
-/

namespace CollisionWatch.Json.Value

/-- The value of a field among members; none inside if it is missing, none outside if it is named
twice. -/
def field? (members : List (Option String × Value)) (name : String) : Option (Option Value) :=
  match members.filter fun m => m.1 == some name with
  | [] => some none
  | [m] => some (some m.2)
  | _ => none

/-- The fields of a record in the order of their names; none inside for a missing one. -/
def fields? (names : List String) : Value → Option (List (Option Value))
  | .object members =>
    if members.all (·.1.isSome) then names.mapM (field? members) else none
  | .array items =>
    if items.length ≤ names.length then
      some (items.map some ++ List.replicate (names.length - items.length) none)
    else none
  | _ => none

/-- The name and the content of a variant. -/
def variant? : Value → Option (String × Option Value)
  | .string name => some (name, none)
  | .object [(some name, content)] => some (name, some content)
  | _ => none

/-- Nothing, as the content of a variant without one. -/
def isNoContent : Option Value → Bool
  | none => true
  | some .null => true
  | _ => false

/-- A field that is `null` or missing when it holds nothing. -/
def optional? {α : Type} (read : Value → Option α) : Option Value → Option (Option α)
  | none => some none
  | some .null => some none
  | some v => (read v).map some

/-- A field with a value of its own when it is missing. -/
def withDefault? {α : Type} (read : Value → Option α) (default : α) : Option Value → Option α
  | none => some default
  | some v => read v

/-- A list of values of one kind. -/
def listOf? {α : Type} (read : Value → Option α) : Value → Option (List α)
  | .array items => items.mapM read
  | _ => none

end CollisionWatch.Json.Value
