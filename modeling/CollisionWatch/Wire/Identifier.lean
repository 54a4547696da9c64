import CollisionWatch.Event
import CollisionWatch.Json.Reader

/-!
# Identifiers as text

An identifier is written as thirty-two hexadecimal digits in lower case, in five groups joined by
hyphens.  It is also read in upper case, without hyphens, between braces, and as a URN, whose mark
may be in upper case too.
-/

namespace CollisionWatch.Wire

open Json (hexValue? natOfHex?)

/-- The places of the hyphens. -/
def hyphens : List Nat := [8, 13, 18, 23]

/-- The digits of `n`, a fixed number of them. -/
def hexDigits (count n : Nat) : List Char :=
  match count with
  | 0 => []
  | count + 1 => hexDigits count (n / 16) ++ [Nat.digitChar (n % 16)]

/-- An identifier as text. -/
def identifierChars (id : Identifier) : List Char :=
  let digits := hexDigits 32 id.toNat
  let group (start length : Nat) := (digits.drop start).take length
  group 0 8 ++ '-' :: group 8 4 ++ '-' :: group 12 4 ++ '-' :: group 16 4 ++ '-' :: group 20 12

/-- An identifier as text. -/
def identifierText (id : Identifier) : String := String.ofList (identifierChars id)

/-- An identifier of thirty-two digits. -/
def readDigits? (digits : List Char) : Option Identifier :=
  if digits.length = 32 then (natOfHex? digits).map (BitVec.ofNat 128) else none

/-- An identifier of digits and hyphens. -/
def readHyphenated? (text : List Char) : Option Identifier :=
  if text.length = 36 ∧ hyphens.all (fun i => text[i]? == some '-') then
    readDigits? (text.filter (· != '-'))
  else none

/-- The mark of a URN that names an identifier. -/
def urnMark : List Char := ['u', 'r', 'n', ':', 'u', 'u', 'i', 'd', ':']

/-- The text between braces, or after the mark of a URN, or all of it. -/
def withoutWrapping (text : List Char) : List Char :=
  match text with
  | '\x7b' :: rest => if rest.getLast? = some '\x7d' then rest.dropLast else text
  | text =>
    if (text.take urnMark.length).map Char.toLower = urnMark then text.drop urnMark.length
    else text

/-- Read an identifier. -/
def readIdentifier? (text : String) : Option Identifier :=
  (readDigits? text.toList).or (readHyphenated? (withoutWrapping text.toList))

end CollisionWatch.Wire
