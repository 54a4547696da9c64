import CollisionWatch.Decimal.Shortest
import CollisionWatch.Decimal.Numeral

/-!
# Styles of writing a float

A `Style` holds the decisions of one output format about the shortest decimal of a float: from
which powers of ten an exponent is written, whether a whole number keeps `.0`, how the exponent's
sign shows, what the words for non-numbers are.  `Style.numeral` applies them.
-/

namespace CollisionWatch.Decimal

/-- How a format writes a finite float. -/
structure Style where
  /-- The power of ten of the leading digit from which on an exponent is written, if ever. -/
  exponentFrom : Option Int
  /-- The power of ten of the leading digit below which an exponent is written, if ever. -/
  exponentBelow : Option Int
  /-- A whole number is written with `.0`. -/
  keepsPoint : Bool
  /-- A positive exponent carries a plus sign. -/
  exponentPlus : Bool
  /-- What settles a tie between two shortest decimals. -/
  tie : Tie

namespace Style

/-- Decimal places after which trailing digits start: the digits of `s` around the point, for a
number whose point stands `places` digits after its first digit. -/
def aroundPoint (digits : List Char) (places : Int) : List Char × List Char :=
  if places ≤ 0 then (['0'], List.replicate (-places).toNat '0' ++ digits)
  else if digits.length ≤ places.toNat then
    (digits ++ List.replicate (places.toNat - digits.length) '0', [])
  else (digits.take places.toNat, digits.drop places.toNat)

/-- The fraction part to write. -/
def fractionOf (keepsPoint : Bool) (digits : List Char) : Option (List Char) :=
  match digits with
  | [] => if keepsPoint then some ['0'] else none
  | _ => some digits

/-- The exponent `e` as written. -/
def exponentOf (style : Style) (e : Int) : Exponent where
  sign := if e < 0 then .minus else if style.exponentPlus then .plus else .none
  digits := digitsOfNat e.natAbs

/-- The numeral of a decimal. -/
def ofScaled (style : Style) (negative : Bool) (s : Scaled) : Numeral :=
  let digits := digitsOfNat s.coefficient
  let leading : Int := digits.length - 1 + s.exponent
  let withExponent :=
    (match style.exponentFrom with | some e => e ≤ leading | none => false) ||
    (match style.exponentBelow with | some e => leading < e | none => false)
  if withExponent then
    ⟨negative, digits.take 1, fractionOf false (digits.drop 1), some (style.exponentOf leading)⟩
  else
    let (whole, fraction) := aroundPoint digits (leading + 1)
    ⟨negative, whole, fractionOf style.keepsPoint fraction, none⟩

/-- The numeral of zero. -/
def zero (style : Style) (negative : Bool) : Numeral :=
  ⟨negative, ['0'], fractionOf style.keepsPoint [], none⟩

/-- The numeral of a finite float; none for the others. -/
def numeral (style : Style) : Binary → Option Numeral
  | .finite negative 0 _ _ => some (style.zero negative)
  | .finite negative significand exponent narrow =>
    some (style.ofScaled negative (Shortest.digits style.tie significand exponent narrow))
  | _ => none

/-- The text of a float, with words for an infinity and for what is not a number. -/
def textWith (style : Style) (infinity notANumber : String) (x : Binary) : String :=
  match x with
  | .notANumber => notANumber
  | .infinite negative => if negative then "-" ++ infinity else infinity
  | x => ((style.numeral x).map Numeral.text).getD ""

end Style

/-! ## Styles shared by several outputs -/

/-- Running text: never an exponent, whole numbers without a point. -/
def Style.prose : Style := ⟨none, none, false, false, .away⟩

/-- An outline of a value: whole numbers keep a point, and an exponent is written below `1e-4` and
from `1e16` on. -/
def Style.outline : Style := ⟨some 16, some (-4), true, false, .away⟩

/-- A single-precision float in running text. -/
def proseSingle (x : Float32) : String := Style.prose.textWith "inf" "NaN" (.ofSingle x)

/-- A double-precision float in running text. -/
def proseDouble (x : Float) : String := Style.prose.textWith "inf" "NaN" (.ofDouble x)

/-- A single-precision float in an outline. -/
def outlineSingle (x : Float32) : String := Style.outline.textWith "inf" "NaN" (.ofSingle x)

/-- A double-precision float in an outline. -/
def outlineDouble (x : Float) : String := Style.outline.textWith "inf" "NaN" (.ofDouble x)

end CollisionWatch.Decimal
