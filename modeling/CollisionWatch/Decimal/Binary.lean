/-!
# Binary floats as exact numbers

A finite binary float is an integer times a power of two.  `Binary.read` takes a float of either
width apart into its sign and that pair, so that everything said about its digits is a statement
about natural numbers.  `Binary.gap` gives the reals that round to the float: the neighbours lie
one unit away above, and one unit (half a unit below a power of two) away below.
-/

namespace CollisionWatch.Decimal

/-- The field widths of a binary float. -/
structure FloatWidth where
  /-- Stored bits of the significand; one more is implied for normal numbers. -/
  fractionBits : Nat
  /-- Bits of the exponent field. -/
  exponentBits : Nat

/-- Single precision. -/
def FloatWidth.single : FloatWidth := ⟨23, 8⟩

/-- Double precision. -/
def FloatWidth.double : FloatWidth := ⟨52, 11⟩

/-- What the bits of a float stand for. -/
inductive Binary where
  /-- Not a number. -/
  | notANumber
  /-- An infinity; `negative` gives its sign. -/
  | infinite (negative : Bool)
  /-- The number `significand * 2 ^ exponent`, zero included; `narrow` says that the neighbour
  towards zero is half as far as the one away from zero. -/
  | finite (negative : Bool) (significand : Nat) (exponent : Int) (narrow : Bool)
  deriving Repr, DecidableEq

namespace Binary

/-- Take the bits of a float apart. -/
def read (width : FloatWidth) (bits : Nat) : Binary :=
  let fraction := bits % Nat.pow 2 width.fractionBits
  let field := bits / Nat.pow 2 width.fractionBits % Nat.pow 2 width.exponentBits
  let negative := bits / Nat.pow 2 (width.fractionBits + width.exponentBits) % 2 == 1
  let bias : Int := Nat.pow 2 (width.exponentBits - 1) - 1 + width.fractionBits
  if field = Nat.pow 2 width.exponentBits - 1 then
    if fraction = 0 then infinite negative else notANumber
  else if field = 0 then finite negative fraction (1 - bias) false
  else
    finite negative (Nat.pow 2 width.fractionBits + fraction) (field - bias)
      (fraction == 0 && field != 1)

/-- A single-precision float. -/
def ofSingle (x : Float32) : Binary := read .single x.toBits.toNat

/-- A double-precision float. -/
def ofDouble (x : Float) : Binary := read .double x.toBits.toNat

end Binary

/-- A non-negative fraction, kept as written. -/
structure Ratio where
  /-- The numerator. -/
  num : Nat
  /-- The denominator. -/
  den : Nat

/-- `n * 2 ^ e` as a fraction. -/
def Ratio.ofDyadic (n : Nat) (e : Int) : Ratio := ⟨n * Nat.pow 2 e.toNat, Nat.pow 2 (-e).toNat⟩

/-- The reals that round to a positive float, in quarter units of its last place. -/
structure Gap where
  /-- The lower end. -/
  lower : Nat
  /-- The float itself. -/
  value : Nat
  /-- The upper end. -/
  upper : Nat
  /-- Both ends round to the float, because its significand is even. -/
  closed : Bool
  /-- One quarter unit is `2 ^ unit`. -/
  unit : Int

/-- The reals that round to `significand * 2 ^ exponent`. -/
def Binary.gap (significand : Nat) (exponent : Int) (narrow : Bool) : Gap where
  lower := 4 * significand - if narrow then 1 else 2
  value := 4 * significand
  upper := 4 * significand + 2
  closed := significand % 2 == 0
  unit := exponent - 2

end CollisionWatch.Decimal
