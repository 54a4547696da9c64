import CollisionWatch.Crash
import CollisionWatch.Decimal.Places

/-!
# Durations

A duration is a whole number of nanoseconds, and the number of its seconds fits into sixty-four
bits.  A number of seconds becomes the nearest duration, a tie the even one; a negative number, one
that is too large and one that is no number become none.
-/

namespace CollisionWatch

/-- Nanoseconds in a second. -/
def nanosecondsPerSecond : Nat := 1000000000

/-- A span of time. -/
structure Duration where
  /-- Its length in nanoseconds. -/
  nanoseconds : Nat
  /-- The seconds fit into sixty-four bits. -/
  bounded : nanoseconds < UInt64.size * nanosecondsPerSecond
  deriving Repr, DecidableEq

namespace Duration

/-- A number of nanoseconds as a duration, if it is small enough. -/
def check (nanoseconds : Nat) : Except Crash Duration :=
  if h : nanoseconds < UInt64.size * nanosecondsPerSecond then .ok ⟨nanoseconds, h⟩
  else .error .noDuration

/-- A duration below `2 ^ 64` nanoseconds. -/
def ofNanoseconds (n : UInt64) : Duration :=
  ⟨n.toNat, Nat.lt_of_lt_of_le n.toNat_lt (by decide)⟩

/-- A tenth of a second. -/
def tenthOfSecond : Duration := ofNanoseconds 100000000

/-- The duration nearest to a number of seconds. -/
def ofSeconds (x : Float) : Except Crash Duration :=
  match Decimal.Binary.ofDouble x with
  | .finite negative significand exponent _ =>
    if negative && significand != 0 then .error .noDuration
    else
      let exact := Decimal.Ratio.ofDyadic significand exponent
      check (Decimal.roundHalfEven (exact.num * nanosecondsPerSecond) exact.den)
  | _ => .error .noDuration

/-- The duration in seconds. -/
def toSeconds (d : Duration) : Float :=
  (d.nanoseconds / nanosecondsPerSecond).toUInt64.toFloat +
    (d.nanoseconds % nanosecondsPerSecond).toUInt64.toFloat / 1e9

/-- The duration `count` times over. -/
def times (d : Duration) (count : Nat) : Except Crash Duration := check (d.nanoseconds * count)

end Duration

end CollisionWatch
