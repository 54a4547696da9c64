import CollisionWatch.Toml.Number
import CollisionWatch.Toml.Table
import CollisionWatch.Toml.Text

/-!
# Reading TOML

`read?` reads a whole document.  It is a list of lines, each blank, a comment, an entry or a header;
an entry gives a value to a dotted key in the table of the last header.  A list may span lines and
hold comments, a table between braces may not.  Lists and tables nest less than eighty deep, and a
dotted key has less than eighty parts.
-/

namespace CollisionWatch.Toml

/-- How deep values nest, and how many parts a dotted key has, at most. -/
def depthLimit : Nat := 80

/-! ## Blanks and comments -/

/-- Without the blanks in front. -/
def skipBlanks (text : List Char) : List Char := text.dropWhile isBlank

/-- Without a comment in front. -/
def skipComment (text : List Char) : List Char :=
  match text with
  | '#' :: rest => rest.dropWhile isText
  | text => text

/-- The rest of a text after blanks, a comment, and a line end or the end of the text. -/
def readLineRest? (text : List Char) : Option (List Char) :=
  match skipComment (skipBlanks text) with
  | [] => some []
  | rest => readLineEnd? rest

/-- The rest of a text after blanks, and after lines that hold nothing but comments. -/
def skipLines? : Nat → List Char → Option (List Char)
  | 0, _ => none
  | fuel + 1, text =>
    match skipBlanks text with
    | '#' :: rest =>
      match readLineEnd? (rest.dropWhile isText) with
      | some rest => skipLines? fuel rest
      | none => none
    | '\n' :: rest => skipLines? fuel rest
    | '\r' :: rest =>
      match rest with
      | '\n' :: rest => skipLines? fuel rest
      | _ => none
    | rest => some rest

/-! ## Keys -/

/-- Characters of a key without quotes. -/
def isKeyChar (c : Char) : Bool := c.isAlphanum || c == '_' || c == '-'

/-- One part of a key. -/
def readKeyPart? (text : List Char) : Option (String × List Char) :=
  let read : Option (List Char × List Char) :=
    match text with
    | '"' :: rest => readBasic? none rest
    | '\'' :: rest => readLiteral? rest
    | text =>
      let (key, rest) := text.span isKeyChar
      if key.isEmpty then none else some (key, rest)
  read.map fun (cs, rest) => (String.ofList cs, rest)

/-- The parts of a key between points, with blanks around each. -/
def readKeyParts? : Nat → List Char → Option (List String × List Char)
  | 0, _ => none
  | fuel + 1, text => do
    let (part, rest) ← readKeyPart? (skipBlanks text)
    match skipBlanks rest with
    | '.' :: rest =>
      let (parts, rest) ← readKeyParts? fuel rest
      return (part :: parts, rest)
    | rest => return ([part], rest)

/-- A key: the parts that lead to a table, the last part, and the rest of the text. -/
def readKey? (text : List Char) : Option (List String × String × List Char) := do
  let (parts, rest) ← readKeyParts? depthLimit text
  if depthLimit ≤ parts.length then none
  return (parts.dropLast, ← parts.getLast?, rest)

/-! ## Values -/

/-- A value without parts. -/
def readScalar? (text : List Char) : Option (Value × List Char) :=
  match text with
  | [] => none
  | c :: _ =>
    if c = '"' ∨ c = '\'' then (readString? text).map fun (s, rest) => (.string s, rest)
    else if c.isDigit ∨ c = '+' ∨ c = '-' ∨ c = 'i' ∨ c = 'n' then
      match readDateTime? text with
      | some rest => some (.dateTime, rest)
      | none => readNumber? text
    else
      match text with
      | 't' :: 'r' :: 'u' :: 'e' :: rest => some (.boolean true, rest)
      | 'f' :: 'a' :: 'l' :: 's' :: 'e' :: rest => some (.boolean false, rest)
      | _ => none

mutual

/-- A value; `depth` more levels may be opened. -/
def readValue? : Nat → Nat → List Char → Option (Value × List Char)
  | 0, _, _ => none
  | fuel + 1, depth, text =>
    match text with
    | '[' :: rest =>
      if depth ≤ 1 then none
      else do
        let (items, rest) ← readItems? fuel (depth - 1) rest
        return (.array items, rest)
    | '\x7b' :: rest =>
      if depth ≤ 1 then none
      else
        match skipBlanks rest with
        | '\x7d' :: rest => some (.table [], rest)
        | rest => do
          let (entries, rest) ← readMembers? fuel (depth - 1) rest
          return (← inlineTable entries, rest)
    | text => readScalar? text

/-- The items of a list up to its closing bracket; a comma may follow the last one. -/
def readItems? : Nat → Nat → List Char → Option (List Value × List Char)
  | 0, _, _ => none
  | fuel + 1, depth, text => do
    match ← skipLines? (text.length + 1) text with
    | ']' :: rest => return ([], rest)
    | text =>
      let (item, rest) ← readValue? fuel depth text
      match ← skipLines? (rest.length + 1) rest with
      | ',' :: rest =>
        let (items, rest) ← readItems? fuel depth rest
        return (item :: items, rest)
      | ']' :: rest => return ([item], rest)
      | _ => none

/-- The entries of a table up to its closing brace. -/
def readMembers? : Nat → Nat → List Char → Option (List Entry × List Char)
  | 0, _, _ => none
  | fuel + 1, depth, text => do
    let (path, name, rest) ← readKey? text
    let '=' :: rest := rest | none
    let (value, rest) ← readValue? fuel depth (skipBlanks rest)
    match skipBlanks rest with
    | ',' :: rest =>
      let (entries, rest) ← readMembers? fuel depth rest
      return (⟨path, name, value⟩ :: entries, rest)
    | '\x7d' :: rest => return ([⟨path, name, value⟩], rest)
    | _ => none

end

/-! ## Lines -/

/-- What a line of a document does. -/
inductive Statement where
  /-- Nothing. -/
  | blank
  /-- It gives a value to a key. -/
  | entry (entry : Entry)
  /-- It opens a table. -/
  | header (kind : HeaderKind) (path : List String)

/-- A header after its opening brackets. -/
def readHeader? (kind : HeaderKind) (text : List Char) : Option (Statement × List Char) := do
  let (path, name, rest) ← readKey? text
  let rest ←
    match kind, rest with
    | .table, ']' :: rest => some rest
    | .oneOfMany, ']' :: ']' :: rest => some rest
    | _, _ => none
  return (.header kind (path ++ [name]), ← readLineRest? rest)

/-- An entry. -/
def readEntry? (text : List Char) : Option (Statement × List Char) := do
  let (path, name, rest) ← readKey? text
  let '=' :: rest := rest | none
  let rest := skipBlanks rest
  let (value, rest) ← readValue? (2 * rest.length + 2) depthLimit rest
  return (.entry ⟨path, name, value⟩, ← readLineRest? rest)

/-- A line that is not empty, and the text after it. -/
def readStatement? (text : List Char) : Option (Statement × List Char) :=
  match text with
  | '[' :: '[' :: rest => readHeader? .oneOfMany rest
  | '[' :: rest => readHeader? .table rest
  | '#' :: _ => (readLineRest? text).map fun rest => (.blank, rest)
  | '\n' :: rest => some (.blank, rest)
  | '\r' :: '\n' :: rest => some (.blank, rest)
  | text => readEntry? text

/-- The lines of a text; each takes at least one character. -/
def readStatements? : Nat → List Char → Option (List Statement)
  | 0, _ => none
  | fuel + 1, text =>
    match skipBlanks text with
    | [] => some []
    | text => do
      let (statement, rest) ← readStatement? text
      return statement :: (← readStatements? fuel rest)

/-- The entries before any header, and the sections. -/
def arrange : List Statement → List Entry × List Section
  | [] => ([], [])
  | statement :: rest =>
    let (entries, sections) := arrange rest
    match statement with
    | .blank => (entries, sections)
    | .entry e => (e :: entries, sections)
    | .header kind path => ([], ⟨kind, path, entries⟩ :: sections)

/-- The text without a byte order mark. -/
def dropMark (text : List Char) : List Char :=
  match text with
  | '\uFEFF' :: rest => rest
  | text => text

/-- The table of a document. -/
def read? (text : String) : Option Entries := do
  let text := dropMark text.toList
  let (entries, sections) := arrange (← readStatements? (text.length + 1) text)
  assemble entries sections

end CollisionWatch.Toml
