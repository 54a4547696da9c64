import CollisionWatch.Decimal.Binary

/-!
# Shortest decimals

`Shortest.digits` finds the decimal with the fewest digits that still reads back as the given
float: it walks the grids of multiples of `10 ^ k` from coarse to fine and stops at the first one
with a point in the gap of the float.  Of two such points it takes the one nearer to the float;
`Tie` settles an exact tie.
-/

namespace CollisionWatch.Decimal

/-- The number `coefficient * 10 ^ exponent`. -/
structure Scaled where
  /-- The integer. -/
  coefficient : Nat
  /-- The power of ten. -/
  exponent : Int
  deriving Repr, DecidableEq

/-- Which of two equally near decimals is written. -/
inductive Tie where
  /-- The one with an even last digit. -/
  | toEven
  /-- The larger one. -/
  | away
  deriving Repr, DecidableEq

namespace Shortest

/-- The point of the grid of multiples of `10 ^ k` that stands for the float: the float lies between
`n` and `n + 1` steps of the grid, and only these two can be nearest. -/
def onGrid (tie : Tie) (gap : Gap) (k : Int) : Option Nat :=
  let unit := Ratio.ofDyadic 1 gap.unit
  let up := unit.num * Nat.pow 10 (-k).toNat
  let step := unit.den * Nat.pow 10 k.toNat
  let value := gap.value * up
  let n := value / step
  let low := n * step
  let high := low + step
  let lowFits := 0 < n && (gap.lower * up < low || gap.closed && gap.lower * up == low)
  let highFits := high < gap.upper * up || gap.closed && high == gap.upper * up
  match lowFits, highFits with
  | false, false => none
  | true, false => some n
  | false, true => some (n + 1)
  | true, true =>
    if value - low < high - value then some n
    else if high - value < value - low then some (n + 1)
    else match tie with
      | .toEven => some (if n % 2 = 0 then n else n + 1)
      | .away => some (n + 1)

/-- Walk the grids from `10 ^ k` down, at most `grids` of them. -/
def search (tie : Tie) (gap : Gap) : Nat → Int → Scaled
  | 0, k => ⟨0, k⟩
  | grids + 1, k =>
    match onGrid tie gap k with
    | some n => ⟨n, k⟩
    | none => search tie gap grids (k - 1)

/-- The shortest decimal that reads back as `significand * 2 ^ exponent`, a positive float.  No
multiple of a power of ten above the upper end of the gap can lie in it, and every binary fraction
with `d` places after the point is a multiple of `10 ^ (-d)`, which bounds the walk. -/
def digits (tie : Tie) (significand : Nat) (exponent : Int) (narrow : Bool) : Scaled :=
  let gap := Binary.gap significand exponent narrow
  let top := (Nat.toDigits 10 (gap.upper * Nat.pow 2 gap.unit.toNat / Nat.pow 2 (-gap.unit).toNat)).length
  search tie gap (top + (-gap.unit).toNat + 1) top

end Shortest

end CollisionWatch.Decimal
