import CollisionWatch.Json.Value
import CollisionWatch.Decimal.Reading

/-!
# Reading JSON

`read?` accepts exactly one JSON value between blanks.  The grammar is the strict one: a number has
no leading zeros and at least one digit after its point and in its exponent, a string holds no bare
control character, a list or object has no comma at its end.  A `\u` escape that names half a
surrogate pair is no reason to refuse the text; it makes the string around it broken.
-/

namespace CollisionWatch.Json

open Decimal

/-- The blanks between tokens. -/
def isGap (c : Char) : Bool := c == ' ' || c == '\n' || c == '\t' || c == '\r'

/-- Without the blanks in front. -/
def skipGap (text : List Char) : List Char := text.dropWhile isGap

/-! ## Numbers -/

/-- The digits before the point: one zero, or digits that do not start with one. -/
def readWhole? (text : List Char) : Option (List Char × List Char) :=
  match spanDigits text with
  | ([], _) => none
  | ('0' :: _ :: _, _) => none
  | (digits, rest) => some (digits, rest)

/-- The point and the digits after it, if there is a point. -/
def readFraction? (text : List Char) : Option (Option (List Char) × List Char) :=
  match text with
  | '.' :: rest =>
    match spanDigits rest with
    | ([], _) => none
    | (digits, rest) => some (some digits, rest)
  | _ => some (none, text)

/-- The sign and digits of an exponent. -/
def readSignedDigits? (text : List Char) : Option (Exponent × List Char) :=
  let (sign, rest) : ExponentSign × List Char :=
    match text with
    | '+' :: rest => (.plus, rest)
    | '-' :: rest => (.minus, rest)
    | rest => (.none, rest)
  match spanDigits rest with
  | ([], _) => none
  | (digits, rest) => some (⟨sign, digits⟩, rest)

/-- The exponent, if there is one. -/
def readPower? (text : List Char) : Option (Option Exponent × List Char) :=
  match text with
  | 'e' :: rest => (readSignedDigits? rest).map fun (e, rest) => (some e, rest)
  | 'E' :: rest => (readSignedDigits? rest).map fun (e, rest) => (some e, rest)
  | _ => some (none, text)

/-- A number in front of a text. -/
def readNumeral? (text : List Char) : Option (Numeral × List Char) := do
  let (negative, rest) : Bool × List Char :=
    match text with
    | '-' :: rest => (true, rest)
    | rest => (false, rest)
  let (whole, rest) ← readWhole? rest
  let (fraction, rest) ← readFraction? rest
  let (exponent, rest) ← readPower? rest
  return (⟨negative, whole, fraction, exponent⟩, rest)

/-! ## Strings -/

/-- A piece of a string: a character, or a sixteen-bit unit written as an escape. -/
inductive Piece where
  /-- The character itself, or the one its escape letter names. -/
  | plain (c : Char)
  /-- The unit of a `\u` escape. -/
  | unit (n : Nat)
  deriving Repr, DecidableEq

/-- The value of a hexadecimal digit. -/
def hexValue? (c : Char) : Option Nat :=
  if c.isDigit then some (c.toNat - '0'.toNat)
  else if 'a' ≤ c ∧ c ≤ 'f' then some (c.toNat - 'a'.toNat + 10)
  else if 'A' ≤ c ∧ c ≤ 'F' then some (c.toNat - 'A'.toNat + 10)
  else none

/-- The number that hexadecimal digits spell. -/
def natOfHex? (digits : List Char) : Option Nat :=
  digits.foldlM (fun n c => (hexValue? c).map (16 * n + ·)) 0

/-- The character that an escape letter names. -/
def unescape? : Char → Option Char
  | '"' => some '"'
  | '\\' => some '\\'
  | '/' => some '/'
  | 'b' => some '\x08'
  | 'f' => some '\x0c'
  | 'n' => some '\n'
  | 'r' => some '\r'
  | 't' => some '\t'
  | _ => none

/-- The pieces of a string up to its closing quote, and the text after it. -/
def readPieces? : List Char → Option (List Piece × List Char)
  | [] => none
  | '"' :: rest => some ([], rest)
  | '\\' :: 'u' :: a :: b :: c :: d :: rest => do
    let n ← natOfHex? [a, b, c, d]
    let (pieces, rest) ← readPieces? rest
    return (.unit n :: pieces, rest)
  | '\\' :: letter :: rest => do
    let c ← unescape? letter
    let (pieces, rest) ← readPieces? rest
    return (.plain c :: pieces, rest)
  | c :: rest => do
    if c.toNat < 0x20 ∨ c = '\\' then none
    let (pieces, rest) ← readPieces? rest
    return (.plain c :: pieces, rest)

/-- The first half of a surrogate pair. -/
def isHighHalf (n : Nat) : Bool := 0xD800 ≤ n && n ≤ 0xDBFF

/-- The second half of a surrogate pair. -/
def isLowHalf (n : Nat) : Bool := 0xDC00 ≤ n && n ≤ 0xDFFF

/-- The characters that pieces spell; none if a half of a surrogate pair stands alone. -/
def spell? : List Piece → Option (List Char)
  | [] => some []
  | .plain c :: rest => (spell? rest).map (c :: ·)
  | .unit n :: rest =>
    if isLowHalf n then none
    else if isHighHalf n then
      match rest with
      | .unit m :: rest =>
        if isLowHalf m then
          (spell? rest).map (Char.ofNat (0x10000 + (n - 0xD800) * 0x400 + (m - 0xDC00)) :: ·)
        else none
      | _ => none
    else (spell? rest).map (Char.ofNat n :: ·)

/-- A string up to its closing quote; the string is none if it is broken. -/
def readString? (text : List Char) : Option (Option String × List Char) :=
  (readPieces? text).map fun (pieces, rest) => ((spell? pieces).map String.ofList, rest)

/-! ## Values -/

mutual

/-- A value in front of a text. -/
def readValue? : Nat → List Char → Option (Value × List Char)
  | 0, _ => none
  | fuel + 1, text =>
    match skipGap text with
    | 'n' :: 'u' :: 'l' :: 'l' :: rest => some (.null, rest)
    | 't' :: 'r' :: 'u' :: 'e' :: rest => some (.bool true, rest)
    | 'f' :: 'a' :: 'l' :: 's' :: 'e' :: rest => some (.bool false, rest)
    | '"' :: rest => do
      let (string, rest) ← readString? rest
      return (string.elim .brokenString .string, rest)
    | '[' :: rest =>
      match skipGap rest with
      | ']' :: rest => some (.array [], rest)
      | rest => do
        let (items, rest) ← readItems? fuel rest
        return (.array items, rest)
    | '\x7b' :: rest =>
      match skipGap rest with
      | '\x7d' :: rest => some (.object [], rest)
      | rest => do
        let (members, rest) ← readMembers? fuel rest
        return (.object members, rest)
    | rest => do
      let (numeral, rest) ← readNumeral? rest
      return (.number numeral, rest)

/-- The items of a list up to its closing bracket. -/
def readItems? : Nat → List Char → Option (List Value × List Char)
  | 0, _ => none
  | fuel + 1, text => do
    let (item, rest) ← readValue? fuel text
    match skipGap rest with
    | ',' :: rest =>
      let (items, rest) ← readItems? fuel rest
      return (item :: items, rest)
    | ']' :: rest => return ([item], rest)
    | _ => none

/-- The members of an object up to its closing brace. -/
def readMembers? : Nat → List Char → Option (List (Option String × Value) × List Char)
  | 0, _ => none
  | fuel + 1, text => do
    let '"' :: rest := skipGap text | none
    let (name, rest) ← readString? rest
    let ':' :: rest := skipGap rest | none
    let (value, rest) ← readValue? fuel rest
    match skipGap rest with
    | ',' :: rest =>
      let (members, rest) ← readMembers? fuel rest
      return ((name, value) :: members, rest)
    | '\x7d' :: rest => return ([(name, value)], rest)
    | _ => none

end

/-- The only value of a text.  Every second step of the reader takes a character. -/
def readChars? (text : List Char) : Option Value := do
  let (value, rest) ← readValue? (2 * text.length + 2) text
  if (skipGap rest).isEmpty then some value else none

/-- The only value of a text. -/
def read? (text : String) : Option Value := readChars? text.toList

end CollisionWatch.Json
