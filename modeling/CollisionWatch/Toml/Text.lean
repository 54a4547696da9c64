import CollisionWatch.Json.Reader

/-!
# Strings of a TOML document

There are four forms of string.  Between single quotes everything stands for itself; between double
quotes a backslash starts an escape.  Either quote tripled makes a string that may span lines: a line
end right after the opening is dropped, every other one counts as a line feed, and one or two quotes
may stand anywhere, also right before the closing.  Between tripled double quotes a backslash at the
end of a line drops that line end and all blanks and line ends after it.

Each form is read by a small machine that takes one character a step.
-/

namespace CollisionWatch.Toml

open Json (hexValue?)

/-- Blanks within a line. -/
def isBlank (c : Char) : Bool := c == ' ' || c == '\t'

/-- Characters that may stand in a comment or a string: everything but control characters other than
the tab. -/
def isText (c : Char) : Bool := c == '\t' || (0x20 ≤ c.toNat && c.toNat ≠ 0x7F)

/-- Characters that stand for themselves between double quotes. -/
def isPlain (c : Char) : Bool := isText c && c != '"' && c != '\\'

/-- Characters that stand for themselves between single quotes. -/
def isLiteral (c : Char) : Bool := isText c && c != '\''

/-- The rest of a text after a line end. -/
def readLineEnd? : List Char → Option (List Char)
  | '\n' :: rest => some rest
  | '\r' :: '\n' :: rest => some rest
  | _ => none

/-- The text without a line end in front. -/
def dropLineEnd (text : List Char) : List Char := (readLineEnd? text).getD text

/-- The character that an escape letter names. -/
def unescape? : Char → Option Char
  | 'b' => some '\x08'
  | 'f' => some '\x0c'
  | 'n' => some '\n'
  | 'r' => some '\r'
  | 't' => some '\t'
  | '"' => some '"'
  | '\\' => some '\\'
  | _ => none

/-- The character of a code point. -/
def charOf? (n : Nat) : Option Char := if n.isValidChar then some (Char.ofNat n) else none

/-- A character in front of what else was read. -/
def prepend (cs : List Char) (read : Option (List Char × List Char)) :
    Option (List Char × List Char) :=
  read.map fun (more, rest) => (cs ++ more, rest)

/-! ## Escapes -/

/-- Where a machine stands inside an escape. -/
inductive EscapeState where
  /-- After the backslash. -/
  | letter
  /-- Before this many more hexadecimal digits, after ones that spell `value`. -/
  | digits (more value : Nat)
  deriving Repr, DecidableEq

/-- What a character does inside an escape: it goes on, or spells a character. -/
def EscapeState.step (state : EscapeState) (c : Char) : Option (EscapeState ⊕ Char) :=
  match state with
  | letter =>
    if c = 'u' then some (.inl (digits 4 0))
    else if c = 'U' then some (.inl (digits 8 0))
    else (unescape? c).map .inr
  | digits more value =>
    (hexValue? c).bind fun d =>
      let value := 16 * value + d
      if more ≤ 1 then (charOf? value).map .inr else some (.inl (digits (more - 1) value))

/-! ## Strings on one line -/

/-- A string between double quotes, after the opening one. -/
def readBasic? : Option EscapeState → List Char → Option (List Char × List Char)
  | _, [] => none
  | none, c :: rest =>
    if c = '"' then some ([], rest)
    else if c = '\\' then readBasic? (some .letter) rest
    else if isPlain c then prepend [c] (readBasic? none rest)
    else none
  | some state, c :: rest =>
    match state.step c with
    | none => none
    | some (.inl state) => readBasic? (some state) rest
    | some (.inr spelled) => prepend [spelled] (readBasic? none rest)

/-- A string between single quotes, after the opening one. -/
def readLiteral? : List Char → Option (List Char × List Char)
  | [] => none
  | c :: rest =>
    if c = '\'' then some ([], rest)
    else if isLiteral c then prepend [c] (readLiteral? rest)
    else none

/-! ## Strings over several lines -/

/-- Where the reader of a string over several lines stands. -/
inductive LongState where
  /-- Between two characters. -/
  | plain
  /-- After a carriage return, which a line feed must follow. -/
  | return
  /-- After this many quotes. -/
  | quotes (count : Nat)
  /-- Inside an escape. -/
  | escape (state : EscapeState)
  /-- After a backslash and blanks, which a line end must follow. -/
  | lineEnding
  /-- After a backslash, blanks and a carriage return. -/
  | lineEndingReturn
  /-- After a backslash at the end of a line, before the next character that counts. -/
  | skipping
  /-- The same, after a carriage return. -/
  | skippingReturn
  deriving Repr, DecidableEq

/-- What a character between two others does: the characters it spells and the next state. -/
def plainStep (basic : Bool) (c : Char) : Option (List Char × LongState) :=
  if c = '\n' then some (['\n'], .plain)
  else if c = '\r' then some ([], .return)
  else if basic then
    if c = '"' then some ([], .quotes 1)
    else if c = '\\' then some ([], .escape .letter)
    else if isPlain c then some ([c], .plain)
    else none
  else
    if c = '\'' then some ([], .quotes 1)
    else if isLiteral c then some ([c], .plain)
    else none

/-- What a character right after a backslash does. -/
def backslashStep (c : Char) : Option (List Char × LongState) :=
  if isBlank c then some ([], .lineEnding)
  else if c = '\n' then some ([], .skipping)
  else if c = '\r' then some ([], .lineEndingReturn)
  else
    match EscapeState.letter.step c with
    | none => none
    | some (.inl state) => some ([], .escape state)
    | some (.inr spelled) => some ([spelled], .plain)

/-- What a character does in a state that does not close the string. -/
def LongState.step (basic : Bool) (state : LongState) (c : Char) :
    Option (List Char × LongState) :=
  match state with
  | .plain => plainStep basic c
  | .return => if c = '\n' then some (['\n'], .plain) else none
  | .quotes count =>
    (plainStep basic c).map fun (spelled, next) =>
      (List.replicate count (if basic then '"' else '\'') ++ spelled, next)
  | .escape .letter => backslashStep c
  | .escape state =>
    match state.step c with
    | none => none
    | some (.inl state) => some ([], .escape state)
    | some (.inr spelled) => some ([spelled], .plain)
  | .lineEnding =>
    if isBlank c then some ([], .lineEnding)
    else if c = '\n' then some ([], .skipping)
    else if c = '\r' then some ([], .lineEndingReturn)
    else none
  | .lineEndingReturn => if c = '\n' then some ([], .skipping) else none
  | .skipping =>
    if isBlank c ∨ c = '\n' then some ([], .skipping)
    else if c = '\r' then some ([], .skippingReturn)
    else plainStep basic c
  | .skippingReturn => if c = '\n' then some ([], .skipping) else none

/-- A string over several lines, after the opening quotes. -/
def readLong? (basic : Bool) : LongState → List Char → Option (List Char × List Char)
  | .quotes count, [] =>
    if 3 ≤ count then some (List.replicate (count - 3) (if basic then '"' else '\''), []) else none
  | _, [] => none
  | state, c :: rest =>
    let quote := if basic then '"' else '\''
    match state with
    | .quotes count =>
      if c = quote then if count < 5 then readLong? basic (.quotes (count + 1)) rest else none
      else if 3 ≤ count then some (List.replicate (count - 3) quote, c :: rest)
      else
        match state.step basic c with
        | none => none
        | some (spelled, next) => prepend spelled (readLong? basic next rest)
    | state =>
      match state.step basic c with
      | none => none
      | some (spelled, next) => prepend spelled (readLong? basic next rest)

/-- A string of any form. -/
def readString? (text : List Char) : Option (String × List Char) :=
  let read : Option (List Char × List Char) :=
    match text with
    | '"' :: '"' :: '"' :: rest => readLong? true .plain (dropLineEnd rest)
    | '\'' :: '\'' :: '\'' :: rest => readLong? false .plain (dropLineEnd rest)
    | '"' :: rest => readBasic? none rest
    | '\'' :: rest => readLiteral? rest
    | _ => none
  read.map fun (cs, rest) => (String.ofList cs, rest)

end CollisionWatch.Toml
