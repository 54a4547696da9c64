/-!
# Between the precisions

Every number of single precision is a double; `widen` answers it.  `narrow` answers the number of
single precision nearest to a double, of two equally near the one with an even significand; what lies
above all of them becomes infinite.  Infinities and what is not a number stay what they are.
-/

namespace CollisionWatch.Decimal

open Float.Model (UnpackedFloat Format)

/-- A float in a format: a finite one is rounded. -/
def roundTo (format : Format) : UnpackedFloat → UnpackedFloat
  | .finite sign significand exponent _ => UnpackedFloat.round format sign significand exponent
  | x => x

/-- The double of the same value. -/
def widen (x : Float32) : Float := .ofModel (.pack (roundTo .binary64 x.toModel.unpack))

/-- The nearest single-precision float. -/
def narrow (x : Float) : Float32 := .ofModel (.pack (roundTo .binary32 x.toModel.unpack))

end CollisionWatch.Decimal
