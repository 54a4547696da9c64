/-!
# Written numbers

A `Numeral` is a number as it stands in a text: a sign, digits before the point, maybe digits after
it, maybe an exponent.  Formats differ in which numerals they accept and which they write; the value
of a numeral is a matter of its own (`CollisionWatch.Decimal.Reading`).
-/

namespace CollisionWatch.Decimal

/-- The sign that may stand in front of the digits of an exponent. -/
inductive ExponentSign where
  /-- No sign is written. -/
  | none
  /-- A plus sign is written. -/
  | plus
  /-- A minus sign is written. -/
  | minus
  deriving Repr, DecidableEq

/-- An exponent as written, after its mark. -/
structure Exponent where
  /-- The sign. -/
  sign : ExponentSign
  /-- The digits. -/
  digits : List Char
  deriving Repr, DecidableEq

/-- A number as written. -/
structure Numeral where
  /-- A minus sign stands in front. -/
  negative : Bool
  /-- The digits before the point. -/
  whole : List Char
  /-- The digits after the point, if there is a point. -/
  fraction : Option (List Char)
  /-- The exponent, if there is one. -/
  exponent : Option Exponent
  deriving Repr, DecidableEq

/-- The value of a digit. -/
def digitValue (c : Char) : Nat := c.toNat - '0'.toNat

/-- The number that digits spell. -/
def natOfDigits (digits : List Char) : Nat :=
  digits.foldl (fun n c => 10 * n + digitValue c) 0

/-- The digits of a number, without leading zeros. -/
def digitsOfNat (n : Nat) : List Char := Nat.toDigits 10 n

namespace ExponentSign

/-- The sign as written. -/
def text : ExponentSign → List Char
  | none => []
  | plus => ['+']
  | minus => ['-']

end ExponentSign

/-- The exponent with its mark. -/
def Exponent.text (e : Exponent) : List Char := 'e' :: (e.sign.text ++ e.digits)

/-- The value of an exponent. -/
def Exponent.value (e : Exponent) : Int :=
  match e.sign with
  | .minus => -(natOfDigits e.digits : Int)
  | _ => natOfDigits e.digits

namespace Numeral

/-- An integer as a numeral. -/
def ofNat (n : Nat) : Numeral := ⟨false, digitsOfNat n, none, none⟩

/-- Neither a point nor an exponent is written. -/
def isWhole (n : Numeral) : Bool := n.fraction.isNone && n.exponent.isNone

/-- The characters of the numeral. -/
def chars (n : Numeral) : List Char :=
  (if n.negative then ['-'] else []) ++ n.whole ++
    (match n.fraction with
      | some digits => '.' :: digits
      | none => []) ++
    (match n.exponent with
      | some e => e.text
      | none => [])

/-- The numeral as text. -/
def text (n : Numeral) : String := String.ofList n.chars

end Numeral

end CollisionWatch.Decimal
