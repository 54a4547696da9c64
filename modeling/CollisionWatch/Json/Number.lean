import CollisionWatch.Json.Value
import CollisionWatch.Decimal.Precision
import CollisionWatch.Decimal.Reading
import CollisionWatch.Decimal.Style

/-!
# What a JSON number is worth

A numeral without point and exponent is an integer if it fits into sixty-four bits; every other one
is a double.  A double is formed from a significand of at most sixty-four bits and one power of ten,
with one floating operation on them; so a numeral of up to nineteen digits with a small exponent
denotes the nearest double, while longer ones may be off in the last place.  A number above the
range of a double is refused.

`ofDouble` and `ofSingle` write a float with the fewest digits that read back.  What is not finite
has no numeral and is written as `null`.
-/

namespace CollisionWatch.Json

open Decimal

/-- A number as a program holds it. -/
inductive Number where
  /-- A natural number of sixty-four bits. -/
  | natural (n : UInt64)
  /-- A negative integer of sixty-four bits. -/
  | negative (n : Int64)
  /-- Any other number. -/
  | double (x : Float)

namespace Number

/-- The number as a double. -/
def toDouble : Number → Float
  | natural n => n.toFloat
  | negative n => n.toFloat
  | double x => x

/-- The number as a single-precision float; an integer is rounded once. -/
def toSingle : Number → Float32
  | natural n => n.toFloat32
  | negative n => n.toFloat32
  | double x => narrow x

/-- The number as a word; only a natural number is one. -/
def toWord? : Number → Option UInt32
  | natural n => if n.toNat < UInt32.size then some n.toUInt32 else none
  | _ => none

end Number

/-! ## Significands -/

/-- Append digits to a significand as long as it stays below `2 ^ 64`; the digits that did not go
in are left over. -/
def appendDigits (significand : Nat) : List Char → Nat × List Char
  | [] => (significand, [])
  | c :: rest =>
    let next := 10 * significand + digitValue c
    if next < UInt64.size then appendDigits next rest else (significand, c :: rest)

/-- The largest power of ten that a double holds. -/
def largestPower : Nat := 308

/-- A power of ten up to `largestPower`. -/
def powerOfTen (n : Nat) : Float := Float.ofScientific 1 false n

/-- A float times a power of ten, one operation for each `largestPower` places; none above the
range of a double. -/
def scaleByPower : Nat → Float → Int → Option Float
  | 0, x, _ => some x
  | steps + 1, x, exponent =>
    if exponent.natAbs ≤ largestPower then
      if 0 ≤ exponent then
        let y := x * powerOfTen exponent.natAbs
        if y.isInf then none else some y
      else some (x / powerOfTen exponent.natAbs)
    else if x == 0 then some x
    else if 0 ≤ exponent then none
    else scaleByPower steps (x / powerOfTen largestPower) (exponent + largestPower)

/-- The double of a significand and a power of ten. -/
def doubleOfParts (negative : Bool) (significand : Nat) (exponent : Int) : Option Float :=
  (scaleByPower (exponent.natAbs / largestPower + 1) significand.toUInt64.toFloat exponent).map
    fun x => if negative then -x else x

/-- What a numeral denotes; none for a number above the range of a double. -/
def numberOf? (n : Numeral) : Option Number :=
  let (significand, left) := appendDigits 0 n.whole
  if n.isWhole && left.isEmpty then
    if !n.negative then some (.natural significand.toUInt64)
    else if 0 < significand ∧ significand ≤ 0x8000000000000000 then
      some (.negative (Int64.ofInt (-(significand : Int))))
    else some (.double (-significand.toUInt64.toFloat))
  else
    let fraction := n.fraction.getD []
    let (significand, unused) := appendDigits significand fraction
    let exponent : Int := left.length - (fraction.length - unused.length : Nat) +
      ((n.exponent.map Exponent.value).getD 0)
    (doubleOfParts n.negative significand exponent).map .double

/-! ## Writing floats -/

/-- Doubles have an exponent below `1e-5` and from `1e16` on. -/
def doubleStyle : Style := ⟨some 16, some (-5), true, true, .toEven⟩

/-- Single-precision floats have an exponent below `1e-6` and from `1e13` on. -/
def singleStyle : Style := ⟨some 13, some (-6), true, true, .toEven⟩

/-- A float as a value. -/
def ofBinary (style : Style) (x : Binary) : Value :=
  match style.numeral x with
  | some numeral => .number numeral
  | none => .null

/-- A double as a value. -/
def Value.ofDouble (x : Float) : Value := ofBinary doubleStyle (.ofDouble x)

/-- A single-precision float as a value. -/
def Value.ofSingle (x : Float32) : Value := ofBinary singleStyle (.ofSingle x)

/-! ## Reading floats and words -/

/-- The double that a value denotes. -/
def Value.double? : Value → Option Float
  | .number numeral => (numberOf? numeral).map Number.toDouble
  | _ => none

/-- The single-precision float that a value denotes. -/
def Value.single? : Value → Option Float32
  | .number numeral => (numberOf? numeral).map Number.toSingle
  | _ => none

/-- The word that a value denotes. -/
def Value.word? : Value → Option UInt32
  | .number numeral => (numberOf? numeral).bind Number.toWord?
  | _ => none

end CollisionWatch.Json
