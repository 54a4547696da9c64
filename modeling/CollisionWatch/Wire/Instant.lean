import CollisionWatch.Calendar
import CollisionWatch.Decimal.Reading
import CollisionWatch.Event
import CollisionWatch.Text.Blank

/-!
# Instants as text

An instant is written in UTC: date, `T`, time of day, as many groups of three decimals as it needs,
and `Z`.  It is read more freely: blanks may stand between the parts, numbers may be shorter, any of
`T`, `t` and a space may separate date and time, and any offset from UTC may be given.
-/

namespace CollisionWatch.Wire

open Decimal (digitsOfNat natOfDigits spanDigits)

/-! ## Writing -/

/-- A number with at least `width` digits. -/
def padded (width n : Nat) : List Char :=
  let digits := digitsOfNat n
  List.replicate (width - digits.length) '0' ++ digits

/-- A year: four digits, or a sign and at least four. -/
def yearChars (year : Int) : List Char :=
  if 0 ≤ year ∧ year ≤ 9999 then padded 4 year.toNat
  else (if year < 0 then '-' else '+') :: padded 4 year.natAbs

/-- The decimals of a second: none, or three, six or nine of them. -/
def decimals (nanoseconds : Nat) : List Char :=
  if nanoseconds = 0 then []
  else if nanoseconds % 1000000 = 0 then '.' :: padded 3 (nanoseconds / 1000000)
  else if nanoseconds % 1000 = 0 then '.' :: padded 6 (nanoseconds / 1000)
  else '.' :: padded 9 nanoseconds

/-- Seconds in a day. -/
def secondsPerDay : Int := 86400

/-- An instant as text.  A leap second is the sixty-first of its minute. -/
def instantText (t : Instant) : String :=
  let date := Date.ofDays (t.seconds / secondsPerDay)
  let second := (t.seconds % secondsPerDay).toNat
  let leap := t.nanoseconds / 1000000000
  String.ofList <|
    yearChars date.year ++ '-' :: padded 2 date.month ++ '-' :: padded 2 date.day ++
    'T' :: padded 2 (second / 3600) ++ ':' :: padded 2 (second / 60 % 60) ++
    ':' :: padded 2 (second % 60 + leap) ++ decimals (t.nanoseconds % 1000000000) ++ ['Z']

/-! ## Reading -/

open Text (trimStart isBlank)

/-- Up to `most` digits after blanks, and the rest of the text. -/
def readField? (most : Nat) (text : List Char) : Option (Nat × List Char) :=
  let text := trimStart text
  let digits := (spanDigits text).1.take most
  if digits.isEmpty then none else some (natOfDigits digits, text.drop digits.length)

/-- A year: up to four digits, or any number of them after a sign. -/
def readYear? (text : List Char) : Option (Int × List Char) :=
  let signed (negative : Bool) (rest : List Char) : Option (Int × List Char) :=
    match spanDigits rest with
    | ([], _) => none
    | (digits, rest) =>
      some (if negative then -(natOfDigits digits : Int) else natOfDigits digits, rest)
  match trimStart text with
  | '-' :: rest => signed true rest
  | '+' :: rest => signed false rest
  | rest => (readField? 4 rest).map fun (n, rest) => (n, rest)

/-- The rest of a text after blanks and a mark. -/
def readMark? (mark : Char) (text : List Char) : Option (List Char) :=
  match trimStart text with
  | c :: rest => if c = mark then some rest else none
  | [] => none

/-- The nanoseconds of the decimals after a point, if there is one; digits after the ninth do not
count. -/
def readDecimals? (text : List Char) : Option (Nat × List Char) :=
  match text with
  | '.' :: rest =>
    match spanDigits rest with
    | ([], _) => none
    | (digits, rest) =>
      let digits := digits.take 9
      some (natOfDigits digits * Nat.pow 10 (9 - digits.length), rest)
  | _ => some (0, text)

/-- The mark of an offset from UTC: a word for none, or a sign; true for a minus. -/
def readOffsetSign? (text : List Char) : Option (Option Bool × List Char) :=
  match text with
  | 'Z' :: rest => some (none, rest)
  | 'z' :: rest => some (none, rest)
  | '+' :: rest => some (some false, rest)
  | '-' :: rest => some (some true, rest)
  | '\u2212' :: rest => some (some true, rest)
  | a :: b :: c :: rest =>
    if [a, b, c].map Char.toUpper = ['U', 'T', 'C'] then some (none, rest) else none
  | _ => none

/-- Two digits in front of a text. -/
def readPair? (text : List Char) : Option (Nat × List Char) :=
  match text with
  | a :: b :: rest =>
    if a.isDigit && b.isDigit then some (natOfDigits [a, b], rest) else none
  | _ => none

/-- An offset from UTC in seconds. -/
def readOffset? (text : List Char) : Option (Int × List Char) := do
  let (sign, rest) ← readOffsetSign? text
  match sign with
  | none => return (0, rest)
  | some negative =>
    let (hours, rest) ← readPair? rest
    let (minutes, rest) ← readPair? (rest.dropWhile fun c => c == ':' || isBlank c)
    if 60 ≤ minutes ∨ 24 ≤ hours then none
    let seconds : Int := hours * 3600 + minutes * 60
    return (if negative then -seconds else seconds, rest)

/-- The rest of a text after the mark between date and time. -/
def readSeparator? (text : List Char) : Option (List Char) :=
  match text with
  | c :: rest => if c ∈ ['T', 't', ' '] then some rest else none
  | [] => none

/-- Read an instant. -/
def readInstant? (text : String) : Option Instant := do
  let (year, rest) ← readYear? text.toList
  let rest ← readMark? '-' rest
  let (month, rest) ← readField? 2 rest
  let rest ← readMark? '-' rest
  let (day, rest) ← readField? 2 rest
  let rest ← readSeparator? rest
  let (hour, rest) ← readField? 2 rest
  let rest ← readMark? ':' rest
  let (minute, rest) ← readField? 2 rest
  let rest ← readMark? ':' rest
  let (second, rest) ← readField? 2 rest
  let (nanoseconds, rest) ← readDecimals? rest
  let (offset, rest) ← readOffset? (trimStart rest)
  let date : Date := ⟨year, month, day⟩
  if !(trimStart rest).isEmpty || !date.isValid then none
  if 24 ≤ hour ∨ 60 ≤ minute ∨ 60 < second then none
  let leap := if second = 60 then 1 else 0
  let seconds := date.toDays * secondsPerDay + hour * 3600 + minute * 60 + (second - leap : Nat) -
    offset
  if (Date.ofDays (seconds / secondsPerDay)).isValid then
    some ⟨seconds, nanoseconds + leap * 1000000000⟩
  else none

end CollisionWatch.Wire
