import CollisionWatch.Decimal.Numeral

/-!
# The value of a written number

`Numeral.toDouble` is the double nearest to the number that a numeral spells, ties to even: one
rounding, whatever the length of the numeral.  `readDouble?` reads a whole text as such a number;
it knows signs, the words `inf`, `infinity` and `nan` in any case, and digits on either side of the
point, and nothing else (no blanks, no separators).
-/

namespace CollisionWatch.Decimal

/-- The positive infinity. -/
def infinity : Float := 1.0 / 0.0

/-- The double nearest to `coefficient * 10 ^ exponent`.  Exponents beyond the range of a double
are settled from the number of digits, so that no power of ten larger than needed is formed. -/
def nearestDouble (coefficient : Nat) (exponent : Int) : Float :=
  let leading : Int := (digitsOfNat coefficient).length + exponent
  if coefficient = 0 then 0
  else if 310 < leading then infinity
  else if leading < -330 then 0
  else Float.ofScientific coefficient (exponent < 0) exponent.natAbs

/-- The double nearest to a numeral. -/
def Numeral.toDouble (n : Numeral) : Float :=
  let fraction := n.fraction.getD []
  let exponent := (n.exponent.map Exponent.value).getD 0
  let magnitude := nearestDouble (natOfDigits (n.whole ++ fraction)) (exponent - fraction.length)
  if n.negative then -magnitude else magnitude

/-- Split off the leading digits. -/
def spanDigits (text : List Char) : List Char × List Char := text.span Char.isDigit

/-- An optional sign; true for a minus. -/
def splitSign : List Char → Bool × List Char
  | '-' :: rest => (true, rest)
  | '+' :: rest => (false, rest)
  | text => (false, text)

/-- The exponent that makes up the rest of a number, after its mark. -/
def readExponent? (text : List Char) : Option Exponent :=
  let (sign, digits) : ExponentSign × List Char :=
    match text with
    | '-' :: rest => (.minus, rest)
    | '+' :: rest => (.plus, rest)
    | rest => (.none, rest)
  if !digits.isEmpty && digits.all Char.isDigit then some ⟨sign, digits⟩ else none

/-- An unsigned number that makes up a whole text: digits on at least one side of an optional
point, then an optional exponent. -/
def readUnsigned? (text : List Char) : Option Numeral :=
  let (whole, rest) := spanDigits text
  let (fraction, rest) : Option (List Char) × List Char :=
    match rest with
    | '.' :: rest => ((spanDigits rest).map some id)
    | rest => (none, rest)
  if whole.isEmpty && (fraction.getD []).isEmpty then none
  else match rest with
    | [] => some ⟨false, whole, fraction, none⟩
    | mark :: rest =>
      if mark = 'e' || mark = 'E' then
        (readExponent? rest).map fun e => ⟨false, whole, fraction, some e⟩
      else none

/-- Read a whole text as a double. -/
def readDouble? (text : String) : Option Float :=
  let (negative, rest) := splitSign text.toList
  let magnitude : Option Float :=
    match String.ofList (rest.map Char.toLower) with
    | "inf" | "infinity" => some infinity
    | "nan" => some (0.0 / 0.0)
    | _ => (readUnsigned? rest).map Numeral.toDouble
  magnitude.map fun x => if negative then -x else x

/-- Read a whole text as an unsigned integer below `bound`: digits, maybe after a plus sign. -/
def readNat? (bound : Nat) (text : String) : Option Nat :=
  let digits := match text.toList with
    | '+' :: rest => rest
    | rest => rest
  if !digits.isEmpty && digits.all Char.isDigit then
    let n := natOfDigits digits
    if n < bound then some n else none
  else none

end CollisionWatch.Decimal
