import CollisionWatch.Json.Value

/-!
# Writing JSON

`Value.compact` writes a value without a blank; `Value.pretty` puts every item and member on a line
of its own, two spaces deeper than its parent, and leaves an empty list or object on one line.  In
a string the quote, the backslash and the control characters are escaped, everything else stands
for itself; so neither form of a string holds a line end.
-/

namespace CollisionWatch.Json

/-- The digit of a value below sixteen. -/
def hexDigit (n : Nat) : Char := Nat.digitChar n

/-- A character inside a string. -/
def escape (c : Char) : List Char :=
  if c = '"' then ['\\', '"']
  else if c = '\\' then ['\\', '\\']
  else if c = '\x08' then ['\\', 'b']
  else if c = '\x0c' then ['\\', 'f']
  else if c = '\n' then ['\\', 'n']
  else if c = '\r' then ['\\', 'r']
  else if c = '\t' then ['\\', 't']
  else if c.toNat < 0x20 then ['\\', 'u', '0', '0', hexDigit (c.toNat / 16), hexDigit (c.toNat % 16)]
  else [c]

/-- A string between quotes. -/
def stringChars (text : String) : List Char := '"' :: (text.toList.flatMap escape ++ ['"'])

/-- A value whose layout has no parts. -/
def scalarChars : Value → List Char
  | .null => ['n', 'u', 'l', 'l']
  | .bool true => ['t', 'r', 'u', 'e']
  | .bool false => ['f', 'a', 'l', 's', 'e']
  | .number numeral => numeral.chars
  | .string text => stringChars text
  | .brokenString => stringChars "\uFFFD"
  | _ => []

/-- A member's name with the colon. -/
def nameChars (name : Option String) : List Char := stringChars (name.getD "\uFFFD") ++ [':']

/-! ## On one line -/

mutual

/-- A value on one line. -/
def valueChars : Value → List Char
  | .array items => '[' :: itemsChars true items
  | .object members => '\x7b' :: membersChars true members
  | v => scalarChars v

/-- The items of a list and the closing bracket. -/
def itemsChars (first : Bool) : List Value → List Char
  | [] => [']']
  | v :: rest => (if first then [] else [',']) ++ (valueChars v ++ itemsChars false rest)

/-- The members of an object and the closing brace. -/
def membersChars (first : Bool) : List (Option String × Value) → List Char
  | [] => ['\x7d']
  | m :: rest => (if first then [] else [',']) ++ (memberChars m ++ membersChars false rest)

/-- A member of an object. -/
def memberChars : Option String × Value → List Char
  | (name, v) => nameChars name ++ valueChars v

end

/-- The value on one line. -/
def Value.compact (v : Value) : String := String.ofList (valueChars v)

/-! ## On many lines -/

/-- A line end and the blanks before the next line's text. -/
def newLine (depth : Nat) : List Char := '\n' :: List.replicate (2 * depth) ' '

mutual

/-- A value whose parts stand at `depth + 1`. -/
def prettyChars (depth : Nat) : Value → List Char
  | .array [] => ['[', ']']
  | .array (v :: rest) => '[' :: (newLine (depth + 1) ++ (prettyChars (depth + 1) v ++
      prettyItems depth rest))
  | .object [] => ['\x7b', '\x7d']
  | .object (m :: rest) => '\x7b' :: (newLine (depth + 1) ++ (prettyMember (depth + 1) m ++
      prettyMembers depth rest))
  | v => scalarChars v

/-- The items after the first and the closing bracket. -/
def prettyItems (depth : Nat) : List Value → List Char
  | [] => newLine depth ++ [']']
  | v :: rest => ',' :: (newLine (depth + 1) ++ (prettyChars (depth + 1) v ++
      prettyItems depth rest))

/-- The members after the first and the closing brace. -/
def prettyMembers (depth : Nat) : List (Option String × Value) → List Char
  | [] => newLine depth ++ ['\x7d']
  | m :: rest => ',' :: (newLine (depth + 1) ++ (prettyMember (depth + 1) m ++
      prettyMembers depth rest))

/-- A member of an object. -/
def prettyMember (depth : Nat) : Option String × Value → List Char
  | (name, v) => nameChars name ++ ' ' :: prettyChars depth v

end

/-- The value on many lines. -/
def Value.pretty (v : Value) : String := String.ofList (prettyChars 0 v)

end CollisionWatch.Json
