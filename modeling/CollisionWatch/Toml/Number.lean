import CollisionWatch.Calendar
import CollisionWatch.Decimal.Reading
import CollisionWatch.Json.Reader
import CollisionWatch.Toml.Value

/-!
# Numbers, dates and times of a TOML document

Digits may be grouped by single underscores.  An integer fits into sixty-four bits; a float has a
fraction or an exponent, or is one of the words `inf` and `nan`, and may not lie above the range of a
double (below it, it is minus infinity).  A value that starts as a date or a time of day is one.
-/

namespace CollisionWatch.Toml

open Decimal (Numeral Exponent ExponentSign natOfDigits)
open Json (hexValue? natOfHex?)

/-! ## Digits -/

/-- Digits in groups: what they are without underscores, and the rest of the text. -/
def readGroups (isDigit : Char → Bool) : List Char → List Char × List Char
  | [] => ([], [])
  | c :: rest =>
    if isDigit c then
      let (digits, rest) := readGroups isDigit rest
      (c :: digits, rest)
    else
      match c, rest with
      | '_', d :: more =>
        if isDigit d then
          let (digits, rest) := readGroups isDigit more
          (d :: digits, rest)
        else ([], '_' :: d :: more)
      | c, rest => ([], c :: rest)

/-- At least one digit, in groups. -/
def readDigits? (isDigit : Char → Bool) (text : List Char) : Option (List Char × List Char) :=
  match text with
  | c :: _ => if isDigit c then some (readGroups isDigit text) else none
  | [] => none

/-- The digits of a whole number: one zero, or digits that do not start with one. -/
def readWhole? (text : List Char) : Option (List Char × List Char) :=
  match text with
  | '0' :: rest => some (['0'], rest)
  | text => readDigits? Char.isDigit text

/-! ## Integers and floats -/

/-- The least integer of sixty-four bits. -/
def leastInteger : Int := -0x8000000000000000

/-- The largest integer of sixty-four bits. -/
def largestInteger : Int := 0x7fffffffffffffff

/-- An integer, if it fits into sixty-four bits. -/
def integer? (n : Int) : Option Value :=
  if leastInteger ≤ n ∧ n ≤ largestInteger then some (.integer n) else none

/-- The digit is one of a base up to sixteen. -/
def isDigitOf (base : Nat) (c : Char) : Bool := (hexValue? c).any (· < base)

/-- The number that digits of a base spell. -/
def natOfBase (base : Nat) (digits : List Char) : Nat :=
  digits.foldl (fun n c => base * n + (hexValue? c).getD 0) 0

/-- An integer of another base, after its mark. -/
def readBase? (base : Nat) (text : List Char) : Option (Value × List Char) := do
  let (digits, rest) ← readDigits? (isDigitOf base) text
  return (← integer? (natOfBase base digits), rest)

/-- The exponent of a float, after its mark. -/
def readExponent? (text : List Char) : Option (Exponent × List Char) :=
  let (sign, rest) : ExponentSign × List Char :=
    match text with
    | '+' :: rest => (.plus, rest)
    | '-' :: rest => (.minus, rest)
    | rest => (.none, rest)
  (readDigits? Char.isDigit rest).map fun (digits, rest) => (⟨sign, digits⟩, rest)

/-- The exponent of a float, if there is one. -/
def readPower? (text : List Char) : Option (Option Exponent × List Char) :=
  match text with
  | 'e' :: rest => (readExponent? rest).map fun (e, rest) => (some e, rest)
  | 'E' :: rest => (readExponent? rest).map fun (e, rest) => (some e, rest)
  | text => some (none, text)

/-- The point and the digits after it, if there is a point. -/
def readFraction? (text : List Char) : Option (Option (List Char) × List Char) :=
  match text with
  | '.' :: rest => (readDigits? Char.isDigit rest).map fun (digits, rest) => (some digits, rest)
  | text => some (none, text)

/-- The value of a numeral: a float if it has a point or an exponent. -/
def numeralValue? (n : Numeral) : Option Value :=
  if n.isWhole then
    let magnitude : Int := natOfDigits n.whole
    integer? (if n.negative then -magnitude else magnitude)
  else
    let x := n.toDouble
    if x.isInf ∧ !n.negative then none else some (.float x)

/-- A number after its sign. -/
def readUnsigned? (negative : Bool) (text : List Char) : Option (Value × List Char) :=
  match text with
  | 'i' :: 'n' :: 'f' :: rest =>
    some (.float (if negative then -Decimal.infinity else Decimal.infinity), rest)
  | 'n' :: 'a' :: 'n' :: rest =>
    some (.float (if negative then -(0.0 / 0.0) else 0.0 / 0.0), rest)
  | text => do
    let (whole, rest) ← readWhole? text
    let (fraction, rest) ← readFraction? rest
    let (exponent, rest) ← readPower? rest
    return (← numeralValue? ⟨negative, whole, fraction, exponent⟩, rest)

/-- A number. -/
def readNumber? (text : List Char) : Option (Value × List Char) :=
  match text with
  | '0' :: 'x' :: rest => readBase? 16 rest
  | '0' :: 'o' :: rest => readBase? 8 rest
  | '0' :: 'b' :: rest => readBase? 2 rest
  | '+' :: rest => readUnsigned? false rest
  | '-' :: rest => readUnsigned? true rest
  | text => readUnsigned? false text

/-! ## Dates and times -/

/-- A number of exactly `count` digits. -/
def readFixed? (count : Nat) (text : List Char) : Option (Nat × List Char) :=
  let digits := text.take count
  if digits.length = count ∧ digits.all Char.isDigit then some (natOfDigits digits, text.drop count)
  else none

/-- The rest of a text after a character. -/
def readMark? (mark : Char) (text : List Char) : Option (List Char) :=
  match text with
  | c :: rest => if c = mark then some rest else none
  | [] => none

/-- The rest of a text after a date. -/
def readDate? (text : List Char) : Option (List Char) := do
  let (year, rest) ← readFixed? 4 text
  let rest ← readMark? '-' rest
  let (month, rest) ← readFixed? 2 rest
  let rest ← readMark? '-' rest
  let (day, rest) ← readFixed? 2 rest
  if (Date.mk year month day).isValid then some rest else none

/-- The rest of a text after an hour and a minute. -/
def readHourMinute? (text : List Char) : Option (List Char) := do
  let (hour, rest) ← readFixed? 2 text
  let rest ← readMark? ':' rest
  let (minute, rest) ← readFixed? 2 rest
  if hour < 24 ∧ minute < 60 then some rest else none

/-- The rest of a text after a time of day. -/
def readTime? (text : List Char) : Option (List Char) := do
  let rest ← readHourMinute? text
  let rest ← readMark? ':' rest
  let (second, rest) ← readFixed? 2 rest
  if 60 < second then none
  match rest with
  | '.' :: more =>
    let (digits, after) := Decimal.spanDigits more
    return if digits.isEmpty then rest else after
  | rest => return rest

/-- The rest of a text after an offset from UTC. -/
def readOffset? (text : List Char) : Option (List Char) :=
  match text with
  | c :: rest =>
    if c = 'Z' ∨ c = 'z' then some rest
    else if c = '+' ∨ c = '-' then readHourMinute? rest
    else none
  | [] => none

/-- The rest of a text after the mark between date and time, the time, and an offset. -/
def readClock? (text : List Char) : Option (List Char) :=
  match text with
  | c :: rest =>
    if c = 'T' ∨ c = 't' ∨ c = ' ' then
      (readTime? rest).map fun rest => (readOffset? rest).getD rest
    else none
  | [] => none

/-- The rest of a text after a date, a time of day, or both. -/
def readDateTime? (text : List Char) : Option (List Char) :=
  match readDate? text with
  | some rest => some ((readClock? rest).getD rest)
  | none => readTime? text

end CollisionWatch.Toml
