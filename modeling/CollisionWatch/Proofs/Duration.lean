import CollisionWatch.Duration
import CollisionWatch.Proofs.Decimal.Binary

/-!
# The duration of a number of seconds

A duration is the number of seconds rounded to whole nanoseconds.  It is empty up to half a
nanosecond (`roundHalfEven_eq_zero_iff`), and it leaves its range only where a double is a whole
number of seconds already, so that its multiples can be compared with the range without rounding
(`mul_nearest_lt_iff`).
-/

namespace CollisionWatch

namespace Decimal

section

variable (num : Nat) {den : Nat} (hden : 0 < den)

include hden

/-- The nearest integer is at most half a unit above. -/
theorem roundHalfEven_mul_le : 2 * (roundHalfEven num den * den) ≤ 2 * num + den := by
  have hdiv := Nat.div_add_mod num den
  have hmod := Nat.mod_lt num hden
  have hsucc : (num / den + 1) * den = den * (num / den) + den := by ring
  have hcomm : num / den * den = den * (num / den) := Nat.mul_comm _ _
  unfold roundHalfEven
  simp only
  split_ifs <;> omega

/-- Up to half a unit the nearest integer is zero. -/
theorem roundHalfEven_eq_zero_iff : roundHalfEven num den = 0 ↔ 2 * num ≤ den := by
  have hmod : num < den → num % den = num := Nat.mod_eq_of_lt
  have hle : num % den ≤ num := Nat.mod_le num den
  have hzero : num / den = 0 ↔ num < den := Nat.div_eq_zero_iff_lt hden
  generalize hquotient : num / den = quotient at hzero
  unfold roundHalfEven
  simp only [hquotient]
  split_ifs with hbelow habove heven
  · omega
  · exact iff_of_false id (by omega)
  · omega
  · exact iff_of_false id (by omega)

end

end Decimal

namespace Duration

open Decimal (Ratio roundHalfEven roundHalfEven_of_exact roundHalfEven_mul_le)

/-- The whole number of nanoseconds nearest to a dyadic number of seconds. -/
def nearest (significand : Nat) (exponent : Int) : Nat :=
  let exact := Ratio.ofDyadic significand exponent
  roundHalfEven (exact.num * nanosecondsPerSecond) exact.den

/-- A number of seconds that is not negative becomes its nearest duration. -/
theorem ofSeconds_eq {x : Float} {significand : Nat} {exponent : Int} {narrow : Bool}
    (h : Decimal.Binary.ofDouble x = .finite false significand exponent narrow) :
    ofSeconds x = check (nearest significand exponent) := by
  unfold ofSeconds
  rw [h]
  simp only [Bool.false_and, Bool.false_eq_true, if_false, nearest]

/-- A number of nanoseconds is a duration if its seconds fit into a word. -/
theorem check_eq_ok_iff (n : Nat) (d : Duration) :
    check n = .ok d ↔ n < UInt64.size * nanosecondsPerSecond ∧ d.nanoseconds = n := by
  unfold check
  constructor
  · split
    · rename_i hlt
      rintro ⟨⟩
      exact ⟨hlt, rfl⟩
    · rintro ⟨⟩
  · rintro ⟨hlt, rfl⟩
    rw [dif_pos hlt]

/-- A duration is not empty exactly above half a nanosecond. -/
theorem nearest_ne_zero_iff (significand : Nat) (exponent : Int) :
    nearest significand exponent ≠ 0 ↔
      (1 / 2 : ℚ) < significand * 2 ^ exponent * nanosecondsPerSecond := by
  have hden := Ratio.den_ofDyadic_pos significand exponent
  have hdenQ : (0 : ℚ) < (Ratio.ofDyadic significand exponent).den := by exact_mod_cast hden
  rw [← Ratio.ofDyadic_eq, div_mul_eq_mul_div, div_lt_div_iff₀ two_pos hdenQ, nearest, Ne,
    Decimal.roundHalfEven_eq_zero_iff _ hden, not_le, ← Nat.cast_lt (α := ℚ)]
  push_cast
  constructor <;> intro h <;> linarith

/-- Parts of a second do not make more of it. -/
theorem nearest_neg_le (significand k : Nat) :
    nearest significand (-k) ≤ significand * nanosecondsPerSecond := by
  have hpow : 0 < 2 ^ k := Nat.two_pow_pos k
  have hnearest := roundHalfEven_mul_le (significand * nanosecondsPerSecond) hpow
  have heq : nearest significand (-k) =
      roundHalfEven (significand * nanosecondsPerSecond) (2 ^ k) := by
    simp [nearest, Ratio.ofDyadic]
  rw [heq]
  generalize roundHalfEven (significand * nanosecondsPerSecond) (2 ^ k) = n at hnearest
  by_contra hlt
  have hmul : (significand * nanosecondsPerSecond + 1) * 2 ^ k ≤ n * 2 ^ k :=
    Nat.mul_le_mul_right _ (Nat.not_le.1 hlt)
  have hle : significand * nanosecondsPerSecond ≤ significand * nanosecondsPerSecond * 2 ^ k :=
    Nat.le_mul_of_pos_right _ hpow
  rw [Nat.add_mul] at hmul
  omega

/-- Some few times over, a duration stays in its range exactly if the number of seconds does. -/
theorem mul_nearest_lt_iff {significand : Nat} (hsignificand : significand < 2 ^ 53)
    (exponent : Int) {count : Nat} (hpos : 0 < count) (hcount : count < 1024) :
    nearest significand exponent * count < UInt64.size * nanosecondsPerSecond ↔
      (significand * 2 ^ exponent * count : ℚ) < UInt64.size := by
  obtain ⟨k, rfl | rfl⟩ := exponent.eq_nat_or_neg
  · -- a whole number of seconds is not rounded
    have hexact : nearest significand k = significand * 2 ^ k * nanosecondsPerSecond := by
      simpa [nearest, Ratio.ofDyadic] using
        roundHalfEven_of_exact (significand * 2 ^ k * nanosecondsPerSecond) one_pos
    rw [hexact, mul_right_comm, Nat.mul_lt_mul_right (by decide), ← Nat.cast_lt (α := ℚ)]
    push_cast
    rw [zpow_natCast]
  · -- below `2 ^ 53` seconds both bounds are far away
    have hnearest := nearest_neg_le significand k
    have hfraction : (2 : ℚ) ^ (-(k : Int)) ≤ 1 := zpow_le_one_of_nonpos₀ one_le_two (by simp)
    refine iff_of_true ?_ ?_
    · calc nearest significand (-k) * count
          ≤ significand * nanosecondsPerSecond * count := Nat.mul_le_mul_right count hnearest
        _ ≤ 2 ^ 53 * nanosecondsPerSecond * 1024 := by gcongr
        _ < UInt64.size * nanosecondsPerSecond := by decide
    · calc (significand * 2 ^ (-(k : Int)) * count : ℚ)
          ≤ significand * 1 * count := by gcongr
        _ ≤ 2 ^ 53 * 1 * 1024 := by
          have hsignificandQ : (significand : ℚ) ≤ 2 ^ 53 := by exact_mod_cast hsignificand.le
          have hcountQ : (count : ℚ) ≤ 1024 := by exact_mod_cast hcount.le
          gcongr
        _ < UInt64.size := by norm_num [UInt64.size]

end Duration

end CollisionWatch
