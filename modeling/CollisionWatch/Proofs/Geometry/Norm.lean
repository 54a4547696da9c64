import CollisionWatch.Geometry.Quaternion
import CollisionWatch.Proofs.Magnitude
import Mathlib

/-!
# The norm of a quaternion as it is computed

The norm is the root of a sum of squares, and each of these is rounded. Squares of small parts
vanish and squares of large ones are infinite, so the norm is not always one that can be divided by.
Rounding passes no power of two, so a power of two that bounds the largest part bounds the computed
norm: the norm is not below one that the part is not below (`two_zpow_le_norm`), and at most twice
one that all parts are at most (`norm_le_two_zpow`).

So the norm is usable if the largest part lies between `2 ^ -22` and `2 ^ 62` (`usable_norm`), and
it is not if all parts are at most `2 ^ -24`, or one is at least `2 ^ 64`
(`not_usable_norm_of_small`, `not_usable_norm_of_large`). A norm that is usable is at most four
times the largest part, which therefore stays large when it is divided by it
(`quarter_le_magnitude_div_norm`).
-/

namespace CollisionWatch.Quaternion

open Single (Gives IsMagnitude exists_isSigned gives_add gives_div gives_mul gives_sqrt isFinite_iff
  isFinite_sqrt_iff isNaN_of_isFinite isSigned_power le_iff_magnitude_le magnitude magnitude_nonneg
  magnitude_power magnitude_sqrt_le power)

/-- The parts, the real one first. -/
def parts {α : Type} (q : Quaternion α) : List α := [q.w, q.x, q.y, q.z]

variable {q : Quaternion Float32} (hq : ∀ p ∈ q.parts, p.isFinite = true) {p : Float32} {k : Int}

include hq

/-! ## The sum of the squares -/

/-- The square of a part is rounded from that of its magnitude. -/
theorem gives_square (hp : p ∈ q.parts) :
    Gives .positive (magnitude p * magnitude p) (p * p) := by
  have hfinite := hq p hp
  obtain ⟨sign, hsigned⟩ := exists_isSigned (isNaN_of_isFinite hfinite)
  have hgives := gives_mul hsigned hsigned hfinite hfinite
  rwa [show sign * sign = .positive by cases sign <;> rfl] at hgives

/-- The partial sums of the squares. -/
theorem gives_dot_self :
    Gives .positive (magnitude (q.w * q.w) + magnitude (q.x * q.x)) (q.w * q.w + q.x * q.x) ∧
    Gives .positive (magnitude (q.w * q.w + q.x * q.x) + magnitude (q.y * q.y))
      (q.w * q.w + q.x * q.x + q.y * q.y) ∧
    Gives .positive (magnitude (q.w * q.w + q.x * q.x + q.y * q.y) + magnitude (q.z * q.z))
      (q.dot q) := by
  have hw := gives_square hq (p := q.w) (by simp [parts])
  have hx := gives_square hq (p := q.x) (by simp [parts])
  have hy := gives_square hq (p := q.y) (by simp [parts])
  have hz := gives_square hq (p := q.z) (by simp [parts])
  have hwx := gives_add hw.signed hx.signed
  have hwxy := gives_add hwx.signed hy.signed
  exact ⟨hwx, hwxy, gives_add hwxy.signed hz.signed⟩

/-- Four squares that are bounded by a power of two. -/
theorem magnitude_dot_self_le (hlow : -74 ≤ k) (hhigh : k ≤ 63)
    (h : ∀ p ∈ q.parts, magnitude p ≤ 2 ^ k) : magnitude (q.dot q) ≤ 2 ^ (2 * k + 2) := by
  have hsquare : ∀ p ∈ q.parts, magnitude (p * p) ≤ 2 ^ (2 * k) := fun p hp => by
    refine (gives_square hq hp).le_two_zpow (by omega) (by omega) ?_
    rw [two_mul, zpow_add₀ two_ne_zero]
    exact mul_le_mul (h p hp) (h p hp) (magnitude_nonneg p) (zpow_nonneg zero_le_two k)
  have hw := hsquare q.w (by simp [parts])
  have hx := hsquare q.x (by simp [parts])
  have hy := hsquare q.y (by simp [parts])
  have hz := hsquare q.z (by simp [parts])
  obtain ⟨hwx, hwxy, hwxyz⟩ := gives_dot_self hq
  have hunit : (0 : ℝ) < 2 ^ (2 * k) := zpow_pos two_pos _
  have hone : (2 : ℝ) ^ (2 * k + 1) = 2 * 2 ^ (2 * k) := by
    rw [zpow_add_one₀ two_ne_zero, mul_comm]
  have htwo : (2 : ℝ) ^ (2 * k + 2) = 4 * 2 ^ (2 * k) := by
    rw [zpow_add₀ two_ne_zero, mul_comm]
    norm_num
  have hlimit : (2 : ℝ) ^ (2 * k + 2) ≤ 2 ^ (128 : Int) :=
    zpow_le_zpow_right₀ one_le_two (by omega)
  have hthree : IsMagnitude ((3 : Nat) * 2 ^ (2 * k)) :=
    ⟨.intro 3 (2 * k) (by decide) (by change -149 ≤ 2 * k; omega), by push_cast; linarith⟩
  have hsum := hwx.le_two_zpow (k := 2 * k + 1) (by omega) (by omega) (by linarith)
  have hsum' := hwxy.faithful.ge_of_ge _ hthree (by push_cast; linarith)
  push_cast at hsum'
  exact hwxyz.le_two_zpow (by omega) (by omega) (by linarith)

/-- A square that is bounded by a power of two from below. -/
theorem le_magnitude_dot_self (hlow : -74 ≤ k) (hhigh : k ≤ 64) (hp : p ∈ q.parts)
    (h : 2 ^ k ≤ magnitude p) : 2 ^ (2 * k) ≤ magnitude (q.dot q) := by
  have hsquare : 2 ^ (2 * k) ≤ magnitude (p * p) := by
    refine (gives_square hq hp).two_zpow_le (by omega) (by omega) ?_
    rw [two_mul, zpow_add₀ two_ne_zero]
    exact mul_le_mul h h (zpow_nonneg zero_le_two k) (magnitude_nonneg p)
  obtain ⟨hwx, hwxy, hwxyz⟩ := gives_dot_self hq
  have hleft : ∀ {x y s : Float32}, Gives .positive (magnitude x + magnitude y) s →
      2 ^ (2 * k) ≤ magnitude x → 2 ^ (2 * k) ≤ magnitude s := fun {_ y _} hs hx =>
    hs.two_zpow_le (by omega) (by omega) (le_add_of_le_of_nonneg hx (magnitude_nonneg y))
  have hright : ∀ {x y s : Float32}, Gives .positive (magnitude x + magnitude y) s →
      2 ^ (2 * k) ≤ magnitude y → 2 ^ (2 * k) ≤ magnitude s := fun {x _ _} hs hy =>
    hs.two_zpow_le (by omega) (by omega) (le_add_of_nonneg_of_le (magnitude_nonneg x) hy)
  simp only [parts, List.mem_cons, List.not_mem_nil, or_false] at hp
  rcases hp with rfl | rfl | rfl | rfl
  · exact hleft hwxyz (hleft hwxy (hleft hwx hsquare))
  · exact hleft hwxyz (hleft hwxy (hright hwx hsquare))
  · exact hleft hwxyz (hright hwxy hsquare)
  · exact hright hwxyz hsquare

/-! ## The norm -/

/-- The norm is finite exactly if the squared norm is. -/
theorem isFinite_norm_iff : q.norm.isFinite = true ↔ (q.dot q).isFinite = true :=
  isFinite_sqrt_iff (gives_dot_self hq).2.2.signed

/-- The norm is rounded from the root of the squared norm. -/
theorem gives_norm (hnorm : q.norm.isFinite = true) :
    Gives .positive √(magnitude (q.dot q)) q.norm :=
  gives_sqrt (gives_dot_self hq).2.2.signed ((isFinite_norm_iff hq).1 hnorm)

/-- If no part exceeds a power of two, the norm does not exceed the next one. -/
theorem norm_le_two_zpow (hnorm : q.norm.isFinite = true) (hlow : -74 ≤ k) (hhigh : k ≤ 63)
    (h : ∀ p ∈ q.parts, magnitude p ≤ 2 ^ k) : magnitude q.norm ≤ 2 ^ (k + 1) := by
  refine (gives_norm hq hnorm).le_two_zpow (by omega) (by omega) ?_
  have hdouble : ((2 : ℝ) ^ (k + 1)) ^ 2 = 2 ^ (2 * k + 2) := by
    rw [← zpow_natCast, ← zpow_mul, Nat.cast_ofNat, add_one_mul, mul_comm k]
  rw [Real.sqrt_le_left (by positivity), hdouble]
  exact magnitude_dot_self_le hq hlow hhigh h

/-- If a part reaches a power of two, the norm does. -/
theorem two_zpow_le_norm (hnorm : q.norm.isFinite = true) (hlow : -74 ≤ k) (hhigh : k ≤ 64)
    (hp : p ∈ q.parts) (h : 2 ^ k ≤ magnitude p) : 2 ^ k ≤ magnitude q.norm := by
  refine (gives_norm hq hnorm).two_zpow_le (by omega) (by omega) ?_
  refine Real.le_sqrt_of_sq_le ?_
  rw [← zpow_natCast, ← zpow_mul, mul_comm]
  exact_mod_cast le_magnitude_dot_self hq hlow hhigh hp h

/-! ## Norms that can be divided by -/

omit hq in
/-- What a norm has to exceed is a power of two. -/
theorem singleEpsilon_eq : singleEpsilon = power (-23) := rfl

/-- **A norm can be divided by if it is finite and above the gap after one.** -/
theorem usable_norm_iff :
    RootScalar.usable q.norm = true ↔
      q.norm.isFinite = true ∧ 2 ^ (-23 : Int) < magnitude q.norm := by
  change (!decide (q.norm ≤ singleEpsilon) && q.norm.isFinite) = true ↔ _
  rw [Bool.and_eq_true, Bool.not_eq_true', decide_eq_false_iff_not, and_comm]
  refine and_congr_right fun hnorm => ?_
  rw [singleEpsilon_eq, le_iff_magnitude_le (gives_norm hq hnorm).signed
    (isSigned_power (by norm_num) (by norm_num)), magnitude_power (by norm_num) (by norm_num), not_le]

/-- **Parts of a middling size have a usable norm.** -/
theorem usable_norm (hsmall : ∀ p ∈ q.parts, magnitude p ≤ 2 ^ (62 : Int)) (hp : p ∈ q.parts)
    (hlarge : 2 ^ (-22 : Int) ≤ magnitude p) : RootScalar.usable q.norm = true := by
  have hdot : (q.dot q).isFinite = true := by
    refine (isFinite_iff (gives_dot_self hq).2.2.isNaN).2 ?_
    refine (magnitude_dot_self_le hq (by norm_num) (by norm_num) hsmall).trans_lt ?_
    norm_num
  have hnorm := (isFinite_norm_iff hq).2 hdot
  refine (usable_norm_iff hq).2 ⟨hnorm, lt_of_lt_of_le ?_
    (two_zpow_le_norm hq hnorm (by norm_num) (by norm_num) hp hlarge)⟩
  norm_num

/-- **Small parts do not have one**: their squares all but vanish. -/
theorem not_usable_norm_of_small (hsmall : ∀ p ∈ q.parts, magnitude p ≤ 2 ^ (-24 : Int)) :
    RootScalar.usable q.norm = false := by
  rw [Bool.eq_false_iff, ne_eq, usable_norm_iff hq]
  rintro ⟨hnorm, habove⟩
  exact habove.not_ge (norm_le_two_zpow hq hnorm (by norm_num) (by norm_num) hsmall)

/-- **A large part has none either**: its square is infinite. -/
theorem not_usable_norm_of_large (hp : p ∈ q.parts) (hlarge : 2 ^ (64 : Int) ≤ magnitude p) :
    RootScalar.usable q.norm = false := by
  rw [Bool.eq_false_iff, ne_eq, usable_norm_iff hq, isFinite_norm_iff hq]
  rintro ⟨hdot, -⟩
  refine ((isFinite_iff (isNaN_of_isFinite hdot)).1 hdot).not_ge ?_
  exact le_magnitude_dot_self hq (by norm_num) le_rfl hp hlarge

/-! ## Scaling -/

/-- The norm that is computed is at most four times the largest part, if it is usable. -/
theorem norm_le_four_mul (husable : RootScalar.usable q.norm = true)
    (hlargest : ∀ r ∈ q.parts, magnitude r ≤ magnitude p) :
    magnitude q.norm ≤ 4 * magnitude p := by
  obtain ⟨hnorm, habove⟩ := (usable_norm_iff hq).1 husable
  rcases le_or_gt (magnitude p) (2 ^ (-74 : Int)) with hvanish | hsome
  · -- squares this small vanish
    have hbelow := norm_le_two_zpow hq hnorm (by norm_num) (by norm_num)
      fun r hr => (hlargest r hr).trans hvanish
    have hgap : (2 : ℝ) ^ (-74 + 1 : Int) ≤ 2 ^ (-23 : Int) :=
      zpow_le_zpow_right₀ one_le_two (by norm_num)
    exact absurd (hbelow.trans hgap) habove.not_ge
  rcases le_or_gt (2 ^ (62 : Int)) (magnitude p) with hlarge | hmiddling
  · -- however large the part is, a finite norm is the root of something finite
    calc magnitude q.norm ≤ 2 ^ (64 : Int) :=
          magnitude_sqrt_le (gives_dot_self hq).2.2.signed ((isFinite_norm_iff hq).1 hnorm)
      _ = 4 * 2 ^ (62 : Int) := by norm_num
      _ ≤ 4 * magnitude p := by gcongr
  · have hpositive : 0 < magnitude p := (zpow_pos two_pos _).trans hsome
    obtain ⟨k, hbelow, habove'⟩ := exists_mem_Ioc_zpow hpositive one_lt_two
    have hlow : -74 < k + 1 := (zpow_lt_zpow_iff_right₀ one_lt_two).1 (hsome.trans_le habove')
    have hhigh : k < 62 := (zpow_lt_zpow_iff_right₀ one_lt_two).1 (hbelow.trans hmiddling)
    calc magnitude q.norm ≤ 2 ^ (k + 1 + 1) :=
          norm_le_two_zpow hq hnorm hlow.le (by omega) fun r hr => (hlargest r hr).trans habove'
      _ = 4 * 2 ^ k := by
          rw [zpow_add_one₀ two_ne_zero, zpow_add_one₀ two_ne_zero]
          ring
      _ ≤ 4 * magnitude p := by gcongr

/-- **Scaling leaves the largest part large.** -/
theorem quarter_le_magnitude_div_norm (husable : RootScalar.usable q.norm = true)
    (hp : p ∈ q.parts) (hlargest : ∀ r ∈ q.parts, magnitude r ≤ magnitude p) :
    2 ^ (-2 : Int) ≤ magnitude (p / q.norm) := by
  obtain ⟨hnorm, habove⟩ := (usable_norm_iff hq).1 husable
  have hpositive : 0 < magnitude q.norm := (zpow_pos two_pos _).trans habove
  obtain ⟨sign, hsigned⟩ := exists_isSigned (isNaN_of_isFinite (hq p hp))
  have hquotient := gives_div hsigned (gives_norm hq hnorm).signed (hq p hp) hnorm hpositive
  refine hquotient.two_zpow_le (by norm_num) (by norm_num) ?_
  rw [le_div_iff₀ hpositive]
  have hbound := norm_le_four_mul hq husable hlargest
  norm_num
  linarith

end CollisionWatch.Quaternion
