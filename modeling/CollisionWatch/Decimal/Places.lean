import CollisionWatch.Decimal.Binary
import CollisionWatch.Decimal.Numeral

/-!
# A fixed number of decimal places

`roundHalfEven` rounds a fraction to the nearest integer, a tie to the even one.  `places` uses it
to write a double with a fixed number of digits after the point, rounding its exact value once.
-/

namespace CollisionWatch.Decimal

/-- The integer nearest to `num / den`, the even one of two equally near. -/
def roundHalfEven (num den : Nat) : Nat :=
  let quotient := num / den
  let rest := num % den
  if 2 * rest < den then quotient
  else if den < 2 * rest then quotient + 1
  else if quotient % 2 = 0 then quotient else quotient + 1

/-- A whole number is not rounded. -/
theorem roundHalfEven_of_exact (n : Nat) {den : Nat} (h : 0 < den) :
    roundHalfEven (n * den) den = n := by
  simp [roundHalfEven, Nat.mul_div_cancel _ h, h]

/-- A double with exactly `count` digits after the point.  The sign of a number that rounds to zero
stays. -/
def places (count : Nat) (x : Float) : String :=
  match Binary.ofDouble x with
  | .notANumber => "NaN"
  | .infinite negative => if negative then "-inf" else "inf"
  | .finite negative significand exponent _ =>
    let exact := Ratio.ofDyadic significand exponent
    let scaled := roundHalfEven (exact.num * Nat.pow 10 count) exact.den
    let digits := digitsOfNat (scaled % Nat.pow 10 count)
    let fraction := List.replicate (count - digits.length) '0' ++ digits
    Numeral.text ⟨negative, digitsOfNat (scaled / Nat.pow 10 count),
      if count = 0 then none else some fraction, none⟩

end CollisionWatch.Decimal
