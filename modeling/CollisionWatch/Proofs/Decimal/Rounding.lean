import CollisionWatch.Proofs.Decimal.Precision
import Mathlib

/-!
# Rounding passes no number of the format

A result that does not fit a format is rounded to one of the two numbers beside it. All that is
kept of this here is that rounding never passes a number of the format: whatever the exact result is
at least, or at most, the rounded one is too (`Faithful`). That much holds of every operation of the
machine (`rounds_mul`, `rounds_add`, `rounds_div`, `rounds_sqrt`), and so bounds of the exact
results that are powers of two are bounds of the computed ones.

The operations leave a significand with two residual bits. `Brackets` says which exact values these
stand for. It survives the shift to the exponent that the format asks for (`Brackets.dropped`), and
a significand is rounded to a neighbouring one (`Brackets.faithful`).
-/

namespace CollisionWatch.Decimal

open Float.Model (UnpackedFloat Format totalExponent)
open Float.Model.UnpackedFloat

/-! ## Residual bits -/

/-- The exact value starts with the mantissa, and is the mantissa if no residual bit is set. -/
structure Brackets (em : ExtendedMantissa) (u : ℝ) : Prop where
  /-- What is cut off is not negative, -/
  le : em.mantissa ≤ u
  /-- less than one unit, -/
  lt : u < em.mantissa + 1
  /-- and nothing exactly if no residual bit is set. -/
  eq_iff : u = em.mantissa ↔ (em.roundBit || em.stickyBit) = false

/-- A number brackets itself if nothing was lost. -/
theorem brackets_exact (m : Nat) :
    Brackets (ExtendedMantissa.ofMantissaAndAccuracy m .exact) m where
  le := le_rfl
  lt := lt_add_one _
  eq_iff := iff_of_true rfl rfl

/-- A mantissa that has lost something brackets what is less than one above it. -/
theorem brackets_inexact {m : Nat} {u : ℝ} (hlow : (m : ℝ) < u) (hhigh : u < m + 1)
    (half : Ordering) : Brackets (ExtendedMantissa.ofMantissaAndAccuracy m (.inexact half)) u := by
  cases half <;>
    exact ⟨hlow.le, hhigh, iff_of_false hlow.ne' (by simp [ExtendedMantissa.ofMantissaAndAccuracy])⟩

/-- What was lost is no part of the mantissa. -/
theorem mantissa_ofMantissaAndAccuracy (m : Nat) (accuracy : Accuracy) :
    (ExtendedMantissa.ofMantissaAndAccuracy m accuracy).mantissa = m := by
  rcases accuracy with _ | ⟨_ | _ | _⟩ <;> rfl

variable {em : ExtendedMantissa} {u : ℝ}

/-- Half of what is bracketed is bracketed after one bit is dropped. -/
theorem Brackets.shiftRightOne (h : Brackets em u) : Brackets em.shiftRightOne (u / 2) := by
  obtain ⟨hle, hlt, heq⟩ := h
  have hdigit : (em.mantissa : ℝ) = 2 * (em.mantissa / 2 : Nat) + (em.mantissa % 2 : Nat) := by
    exact_mod_cast (Nat.div_add_mod em.mantissa 2).symm
  rcases Nat.mod_two_eq_zero_or_one em.mantissa with hlast | hlast
  · -- the digit that is shifted out is no digit
    rw [hlast, Nat.cast_zero, add_zero] at hdigit
    refine ⟨?_, ?_, ?_⟩ <;> simp only [ExtendedMantissa.shiftRightOne, hlast]
    · linarith
    · linarith
    · simp only [bne_self_eq_false, Bool.false_or, ← heq]
      constructor <;> intro h <;> linarith
  · rw [hlast, Nat.cast_one] at hdigit
    refine ⟨?_, ?_, ?_⟩ <;> simp only [ExtendedMantissa.shiftRightOne, hlast]
    · linarith
    · linarith
    · refine iff_of_false ?_ (by simp)
      intro h
      linarith

/-- What is bracketed stays so after any number of bits is dropped. -/
theorem Brackets.shiftRight (h : Brackets em u) (k : Nat) : Brackets (em >>> k) (u / 2 ^ k) := by
  induction k with
  | zero => simpa [HShiftRight.hShiftRight, Nat.repeat] using h
  | succ k ih =>
    rw [pow_succ, ← div_div]
    exact ih.shiftRightOne

/-- Rounding goes no further down than to the mantissa. -/
theorem mantissa_le_roundedMantissa (em : ExtendedMantissa) : em.mantissa ≤ em.roundedMantissa := by
  obtain ⟨m, r, s⟩ := em
  cases r <;> cases s <;>
    simp [ExtendedMantissa.roundedMantissa, ExtendedMantissa.accuracy, Accuracy.roundToNearestEven]

/-- Rounding goes no further up than to the next mantissa. -/
theorem roundedMantissa_le_succ (em : ExtendedMantissa) :
    em.roundedMantissa ≤ em.mantissa + 1 := by
  obtain ⟨m, r, s⟩ := em
  cases r <;> cases s <;>
    simp [ExtendedMantissa.roundedMantissa, ExtendedMantissa.accuracy, Accuracy.roundToNearestEven]
  omega

/-- Rounding to a mantissa passes no mantissa: it does not fall below one, -/
theorem Brackets.le_roundedMantissa (h : Brackets em u) {n : Nat} (hn : (n : ℝ) ≤ u) :
    n ≤ em.roundedMantissa := by
  have hlt : (n : ℝ) < (em.mantissa + 1 : Nat) := by
    push_cast
    exact hn.trans_lt h.lt
  exact (Nat.lt_succ_iff.1 (by exact_mod_cast hlt)).trans (mantissa_le_roundedMantissa em)

/-- and does not rise above one. -/
theorem Brackets.roundedMantissa_le (h : Brackets em u) {n : Nat} (hn : u ≤ n) :
    em.roundedMantissa ≤ n := by
  by_cases hexact : (em.roundBit || em.stickyBit) = false
  · rw [h.eq_iff.2 hexact] at hn
    obtain ⟨m, r, s⟩ := em
    obtain ⟨rfl, rfl⟩ := Bool.or_eq_false_iff.1 hexact
    exact_mod_cast hn
  · have hlt : (em.mantissa : ℝ) < n := (h.le.lt_of_ne' (mt h.eq_iff.1 hexact)).trans_le hn
    exact (roundedMantissa_le_succ em).trans (by exact_mod_cast hlt)

/-- A power of two that does not exceed what is bracketed does not exceed what is rounded. -/
theorem Brackets.two_pow_le_roundedMantissa (h : Brackets em u) {k : Nat} (hk : 2 ^ k ≤ u) :
    2 ^ k ≤ em.roundedMantissa :=
  h.le_roundedMantissa (by push_cast; exact hk)

/-! ## Numbers that fit a format -/

/-- The number has at most as many digits as the format, and its last one has a place there. There
is no largest such number. -/
inductive Fits (format : Format) : ℝ → Prop
  /-- Some digits, and the place of the last one. -/
  | intro (n : Nat) (j : Int) (hn : n ≤ 2 ^ format.mantissaBits) (hj : format.minExponent ≤ j) :
      Fits format (n * 2 ^ j)

/-- On the way from one number to another none that satisfies the predicate is passed. -/
structure Faithful (P : ℝ → Prop) (v r : ℝ) : Prop where
  /-- What was at most the one is at most the other, -/
  le_of_le : ∀ a, P a → a ≤ v → a ≤ r
  /-- and what was at least the one is at least the other. -/
  ge_of_ge : ∀ a, P a → v ≤ a → r ≤ a

/-- A number is faithful to itself. -/
theorem Faithful.refl (P : ℝ → Prop) (v : ℝ) : Faithful P v v := ⟨fun _ _ => id, fun _ _ => id⟩

/-- Fewer candidates are easier to be faithful to. -/
theorem Faithful.mono {P Q : ℝ → Prop} {v r : ℝ} (h : Faithful P v r) (hQ : ∀ a, Q a → P a) :
    Faithful Q v r :=
  ⟨fun a ha => h.le_of_le a (hQ a ha), fun a ha => h.ge_of_ge a (hQ a ha)⟩

variable {format : Format} {m : Nat} {e : Int}

/-- At any place, a number that fits is whole or, if it has digits beyond, at most the least number
that has all digits of the format up to there. -/
theorem Fits.whole_or_fine {a : ℝ} (h : Fits format a) (e : Int) :
    (∃ n : Nat, a = n * 2 ^ e) ∨
      format.minExponent < e ∧ a ≤ 2 ^ format.mantissaBitsWithoutImplicit * 2 ^ e := by
  obtain ⟨n, j, hn, hj⟩ := h
  rcases le_or_gt e j with hcoarse | hfine
  · obtain ⟨k, rfl⟩ := Int.le.dest hcoarse
    refine .inl ⟨n * 2 ^ k, ?_⟩
    rw [zpow_add₀ two_ne_zero, zpow_natCast]
    push_cast
    ring
  · have hdigits : (n : ℝ) ≤ 2 ^ format.mantissaBits := by exact_mod_cast hn
    refine .inr ⟨hj.trans_lt hfine, ?_⟩
    calc (n * 2 ^ j : ℝ) ≤ 2 ^ format.mantissaBits * 2 ^ (e - 1) := by
          gcongr
          · exact one_le_two
          · omega
      _ = 2 ^ format.mantissaBitsWithoutImplicit * 2 ^ e := by
          rw [zpow_sub_one₀ two_ne_zero, Format.mantissaBits, pow_add]
          ring

/-- **Rounding a mantissa passes no number that fits**, if it has all digits of the format, or the
last one stands at the lowest place. -/
theorem Brackets.faithful (h : Brackets em u)
    (hfull : e = format.minExponent ∨ 2 ^ format.mantissaBitsWithoutImplicit ≤ u) :
    Faithful (Fits format) (u * 2 ^ e) (em.roundedMantissa * 2 ^ e) := by
  have hunit : (0 : ℝ) < 2 ^ e := zpow_pos two_pos e
  constructor
  · intro a ha hle
    -- A number that fits is whole at this place, or less than any full mantissa at it.
    rcases ha.whole_or_fine e with ⟨n, rfl⟩ | ⟨hplace, hfine⟩
    · have hwhole := h.le_roundedMantissa (le_of_mul_le_mul_right hle hunit)
      gcongr
    · have hleast := h.two_pow_le_roundedMantissa (hfull.resolve_left hplace.ne')
      refine hfine.trans ?_
      gcongr
      exact_mod_cast hleast
  · intro a ha hle
    rcases ha.whole_or_fine e with ⟨n, rfl⟩ | ⟨hplace, hfine⟩
    · have hwhole := h.roundedMantissa_le (le_of_mul_le_mul_right hle hunit)
      gcongr
    · have hleast : 2 ^ format.mantissaBitsWithoutImplicit ≤ u := hfull.resolve_left hplace.ne'
      have hmost : u ≤ (2 ^ format.mantissaBitsWithoutImplicit : Nat) := by
        push_cast
        exact le_of_mul_le_mul_right (hle.trans hfine) hunit
      have hwhole : (em.roundedMantissa : ℝ) ≤ (2 ^ format.mantissaBitsWithoutImplicit : Nat) := by
        exact_mod_cast h.roundedMantissa_le hmost
      refine le_trans ?_ hle
      gcongr
      push_cast at hwhole
      exact hwhole.trans hleast

/-! ## Rounding a significand -/

/-- Shifted to where its last digit is to stand, a significand has no more digits than the format;
and it has all of them, or the last one stands at the lowest place. -/
theorem digits_of_targetExponent_eq {k : Nat}
    (hk : format.targetExponent (totalExponent m e) = e + k) :
    m < 2 ^ (format.mantissaBits + k) ∧ (e + k = format.minExponent ∨
      2 ^ (format.mantissaBitsWithoutImplicit + k) ≤ m) := by
  have hbits := format.hm
  rw [Format.targetExponent, totalExponent, Format.mantissaBits] at hk
  rw [Format.mantissaBits]
  rcases m.eq_zero_or_pos with rfl | hm
  · rw [Nat.log2_zero] at hk
    exact ⟨Nat.two_pow_pos _, .inl (by omega)⟩
  · refine ⟨Nat.lt_log2_self.trans_le (Nat.pow_le_pow_right two_pos (by omega)), ?_⟩
    by_cases hlowest : e + k = format.minExponent
    · exact .inl hlowest
    · exact .inr ((Nat.pow_le_pow_right two_pos (by omega)).trans (Nat.log2_self_le hm.ne'))

/-- A rounded significand is canonical, after one more shift if rounding has carried over. -/
theorem exists_isCanonical (hpos : 0 < m) (hdigits : m ≤ 2 ^ format.mantissaBits)
    (hlow : format.minExponent ≤ e)
    (hfull : e = format.minExponent ∨ 2 ^ format.mantissaBitsWithoutImplicit ≤ m) :
    ∃ (m' : Nat) (k : Nat), 0 < m' ∧ m = m' * 2 ^ k ∧ IsCanonical format m' (e + k) := by
  rcases hdigits.eq_or_lt with rfl | hlt
  · refine ⟨2 ^ format.mantissaBitsWithoutImplicit, 1, Nat.two_pow_pos _, ?_, ?_⟩
    · rw [Format.mantissaBits, pow_add, mul_comm]
    · rw [IsCanonical, totalExponent, Nat.log2_two_pow, Format.targetExponent, Format.mantissaBits]
      omega
  · refine ⟨m, 0, hpos, (Nat.mul_one m).symm, ?_⟩
    have hlog := (Nat.log2_lt hpos.ne').2 hlt
    have hleast : e = format.minExponent ∨ format.mantissaBitsWithoutImplicit ≤ m.log2 :=
      hfull.imp_right (Nat.le_log2 hpos.ne').2
    rw [IsCanonical, totalExponent, Format.targetExponent]
    rw [Format.mantissaBits] at hlog ⊢
    omega

/-- The unpacked float is a result of this sign, and rounding has passed no number that fits. -/
inductive Rounds (format : Format) (sign : Sign) (v : ℝ) : UnpackedFloat → Prop
  /-- Nothing is left. -/
  | zero (h : Faithful (Fits format) v 0) : Rounds format sign v (.zero sign)
  /-- A significand is left, at the exponent that the format asks for. -/
  | finite {m : Nat} {e : Int} (hm : 0 < m) (hcanonical : IsCanonical format m e)
      (h : Faithful (Fits format) v (m * 2 ^ e)) :
      Rounds format sign v (.finite sign m e hm)

/-- What dropping digits leaves of a significand, and of the value it stands for. -/
structure Dropped (format : Format) (em : ExtendedMantissa) (e : Int) (u : ℝ) : Prop where
  /-- The mantissa and the residual bits still bracket the value. -/
  brackets : Brackets em u
  /-- The last digit has a place in the format. -/
  low : format.minExponent ≤ e
  /-- It stands at the lowest place, or all digits are there. -/
  full : e = format.minExponent ∨ 2 ^ format.mantissaBitsWithoutImplicit ≤ u
  /-- There are no more digits. -/
  top : em.roundedMantissa ≤ 2 ^ format.mantissaBits

/-- What is dropped for the sake of the exponent leaves a bracket. -/
theorem Brackets.dropped {accuracy : Accuracy} {k : Nat}
    (h : Brackets (ExtendedMantissa.ofMantissaAndAccuracy m accuracy) u)
    (hk : format.targetExponent (totalExponent m e) = e + k) :
    Dropped format (ExtendedMantissa.ofMantissaAndAccuracy m accuracy >>> k) (e + k)
      (u / 2 ^ k) := by
  obtain ⟨hdigits, hfull⟩ := digits_of_targetExponent_eq hk
  have hmantissa := mantissa_ofMantissaAndAccuracy m accuracy
  have hstart : (m : ℝ) ≤ u := hmantissa ▸ h.le
  have hend : u < m + 1 := hmantissa ▸ h.lt
  have hpow : (0 : ℝ) < 2 ^ k := pow_pos two_pos k
  refine ⟨h.shiftRight k, hk ▸ le_max_right _ _, hfull.imp_right fun hle => ?_,
    (h.shiftRight k).roundedMantissa_le ?_⟩
  · rw [le_div_iff₀ hpow, ← pow_add]
    exact le_trans (by exact_mod_cast hle) hstart
  · rw [div_le_iff₀ hpow]
    push_cast
    rw [← pow_add]
    exact hend.le.trans (by exact_mod_cast hdigits)

/-- The shift after rounding changes no value. -/
theorem rounds_shiftToTargetExponent {v : ℝ} (sign : Sign)
    (h : Faithful (Fits format) v (m * 2 ^ e)) (hlow : format.minExponent ≤ e)
    (hfull : e = format.minExponent ∨ 2 ^ format.mantissaBitsWithoutImplicit ≤ m)
    (hdigits : m ≤ 2 ^ format.mantissaBits) :
    Rounds format sign v
      (if h : (shiftToTargetExponent format m e .exact).1.mantissa = 0 then .zero sign
      else .finite sign (shiftToTargetExponent format m e .exact).1.mantissa
        (shiftToTargetExponent format m e .exact).2 (Nat.pos_of_ne_zero h)) := by
  rcases m.eq_zero_or_pos with rfl | hpos
  · have hnothing : (shiftToTargetExponent format 0 e .exact).1.mantissa = 0 := by
      have hshift := shiftRight_mul_two_pow 0
      simp only [Nat.zero_mul] at hshift
      simp [shiftToTargetExponent, shiftToExponent, ExtendedMantissa.ofMantissaAndAccuracy, hshift]
    rw [dif_pos hnothing]
    exact .zero (by simpa using h)
  · obtain ⟨n, j, hn, rfl, hcanonical⟩ := exists_isCanonical hpos hdigits hlow hfull
    have hsecond := shiftToTargetExponent_of_canonical hcanonical hn j
    rw [add_sub_cancel_right] at hsecond
    simp only [hsecond]
    rw [dif_neg hn.ne']
    refine .finite hn hcanonical ?_
    have hcarry : ((n * 2 ^ j : Nat) : ℝ) * 2 ^ e = n * 2 ^ (e + j) := by
      rw [zpow_add₀ two_ne_zero, zpow_natCast]
      push_cast
      ring
    rwa [hcarry] at h

/-- **Rounding passes no number that fits**, as long as it only drops digits. -/
theorem rounds_roundWithAccuracy {accuracy : Accuracy}
    (h : Brackets (ExtendedMantissa.ofMantissaAndAccuracy m accuracy) u)
    (he : e ≤ format.targetExponent (totalExponent m e)) (sign : Sign) :
    Rounds format sign (u * 2 ^ e) (roundWithAccuracy format sign m e accuracy) := by
  obtain ⟨k, hk⟩ := Int.le.dest he
  have hfirst : shiftToTargetExponent format m e accuracy =
      (ExtendedMantissa.ofMantissaAndAccuracy m accuracy >>> k, e + k) := by
    rw [shiftToTargetExponent, ← hk, shiftToExponent, show (e + k - e).toNat = k by omega]
  obtain ⟨hbrackets, hlow, hfull, htop⟩ := h.dropped hk.symm
  have hfaithful := hbrackets.faithful hfull
  have hvalue : u / 2 ^ k * 2 ^ (e + k) = u * 2 ^ e := by
    rw [zpow_add₀ two_ne_zero, zpow_natCast]
    field_simp
  rw [hvalue] at hfaithful
  have hleast := hfull.imp_right hbrackets.two_pow_le_roundedMantissa
  simp only [roundWithAccuracy, hfirst]
  exact rounds_shiftToTargetExponent sign hfaithful hlow hleast htop

/-- **Rounding passes no number that fits.** -/
theorem rounds_round (hm : 0 < m) (sign : Sign) :
    Rounds format sign (m * 2 ^ e) (UnpackedFloat.round format sign m e) := by
  set target := format.targetExponent (totalExponent m e) with htarget
  set k := (e - target).toNat with hk
  have hvalue : ((m * 2 ^ k : Nat) : ℝ) * 2 ^ (e - k) = m * 2 ^ e := by
    rw [zpow_sub₀ two_ne_zero, zpow_natCast]
    push_cast
    field_simp
  have hplace : e - k ≤ format.targetExponent (totalExponent (m * 2 ^ k) (e - k)) := by
    rw [totalExponent_mul_two_pow hm, ← htarget]
    omega
  have hrounds := rounds_roundWithAccuracy (brackets_exact (m * 2 ^ k)) hplace sign
  rw [hvalue] at hrounds
  simpa only [UnpackedFloat.round, decreaseExponent, Nat.shiftLeft_eq] using hrounds

/-! ## The operations -/

variable {n : Nat} {f : Int}

/-- The product of two canonical numbers has digits to drop. -/
theorem le_targetExponent_mul (hm : 0 < m) (hn : 0 < n) (hcanonical : IsCanonical format m e)
    (hcanonical' : IsCanonical format n f) :
    e + f ≤ format.targetExponent (totalExponent (m * n) (e + f)) := by
  have hlowest := minExponent_eq format
  have hlog : m.log2 + n.log2 ≤ (m * n).log2 := by
    rw [Nat.le_log2 (Nat.mul_pos hm hn).ne', pow_add]
    exact Nat.mul_le_mul (Nat.log2_self_le hm.ne') (Nat.log2_self_le hn.ne')
  simp only [IsCanonical, Format.targetExponent, totalExponent, Format.mantissaBits] at *
  omega

/-- Products are rounded faithfully. -/
theorem rounds_mul (sign sign' : Sign) (hm : 0 < m) (hn : 0 < n)
    (hcanonical : IsCanonical format m e) (hcanonical' : IsCanonical format n f) :
    Rounds format (sign * sign') (m * 2 ^ e * (n * 2 ^ f))
      (mul format (.finite sign m e hm) (.finite sign' n f hn)) := by
  have hrounds := rounds_roundWithAccuracy (brackets_exact (m * n))
    (le_targetExponent_mul hm hn hcanonical hcanonical') (sign * sign')
  have hvalue : ((m * n : Nat) : ℝ) * 2 ^ (e + f) = m * 2 ^ e * (n * 2 ^ f) := by
    rw [zpow_add₀ two_ne_zero]
    push_cast
    ring
  rwa [hvalue] at hrounds

/-- Zeros at the end, down to a lower exponent, change no value. -/
theorem mul_two_pow_toNat_sub {g : Int} (hg : g ≤ e) :
    ((m * 2 ^ (e - g).toNat : Nat) : ℝ) * 2 ^ g = m * 2 ^ e := by
  obtain ⟨k, rfl⟩ := Int.le.dest hg
  rw [add_sub_cancel_left, Int.toNat_natCast, zpow_add₀ two_ne_zero, zpow_natCast]
  push_cast
  ring

/-- Sums of positive numbers are rounded faithfully. -/
theorem rounds_add (hm : 0 < m) (hn : 0 < n) :
    Rounds format .positive (m * 2 ^ e + n * 2 ^ f)
      (add format (.finite .positive m e hm) (.finite .positive n f hn)) := by
  have hpos : 0 < m * 2 ^ (e - min e f).toNat + n * 2 ^ (f - min e f).toNat :=
    Nat.add_pos_left (Nat.mul_pos hm (Nat.two_pow_pos _)) _
  have hrounds : Rounds format .positive _ _ := rounds_round (e := min e f) hpos .positive
  rw [Nat.cast_add, add_mul, mul_two_pow_toNat_sub (min_le_left e f),
    mul_two_pow_toNat_sub (min_le_right e f)] at hrounds
  have hcompare : ∀ {k : Nat}, 0 < k → compare (k : Int) 0 = .gt := fun hk =>
    Int.compare_eq_gt.2 (by exact_mod_cast hk)
  simp only [add, decreaseExponent, Nat.shiftLeft_eq, Sign.apply, UnpackedFloat.normalize]
  rw [← Int.natCast_add, hcompare hpos]
  exact hrounds

/-- A result has digits to drop if it has all digits of the format wherever the format asks for
them. -/
theorem le_targetExponent_of_full {g t : Int} (hg : g ≤ format.targetExponent t)
    (hfull : format.mantissaBits ≤ t - g → 2 ^ format.mantissaBitsWithoutImplicit ≤ m) :
    g ≤ format.targetExponent (totalExponent m g) := by
  rcases le_max_iff.1 hg with hplace | hlowest
  · have hdigits := hfull (by omega)
    have hpos := (Nat.two_pow_pos format.mantissaBitsWithoutImplicit).trans_le hdigits
    have hlog := (Nat.le_log2 hpos.ne').2 hdigits
    rw [Format.targetExponent, totalExponent, Format.mantissaBits]
    omega
  · exact le_max_of_le_right hlowest

/-- A number is no smaller than the power of two of its length. -/
theorem two_pow_log2_add_le (hm : 0 < m) (k : Nat) : 2 ^ (m.log2 + k) ≤ m * 2 ^ k := by
  rw [pow_add]
  exact Nat.mul_le_mul_right _ (Nat.log2_self_le hm.ne')

/-- The whole part of a quotient, with what is known of the rest, brackets it. -/
theorem brackets_div (m : Nat) (hn : 0 < n) :
    Brackets (ExtendedMantissa.ofMantissaAndAccuracy (m / n) (accuracyOfFraction (m % n) n))
      (m / n) := by
  have hpos : (0 : ℝ) < n := by exact_mod_cast hn
  have hdivision : (m : ℝ) = n * (m / n : Nat) + (m % n : Nat) := by
    exact_mod_cast (Nat.div_add_mod m n).symm
  rw [accuracyOfFraction]
  split_ifs with hrest
  · rw [hrest, Nat.cast_zero, add_zero] at hdivision
    have hquotient : (m : ℝ) / n = (m / n : Nat) := by
      rw [div_eq_iff hpos.ne', mul_comm]
      exact hdivision
    rw [hquotient]
    exact brackets_exact _
  · have hsome : (0 : ℝ) < (m % n : Nat) := by exact_mod_cast Nat.pos_of_ne_zero hrest
    have hless : ((m % n : Nat) : ℝ) < n := by exact_mod_cast Nat.mod_lt m hn
    refine brackets_inexact ?_ ?_ _
    · rw [lt_div_iff₀ hpos, mul_comm]
      linarith
    · rw [div_lt_iff₀ hpos, mul_comm, mul_add, mul_one]
      linarith

/-- A quotient is computed with digits to drop. -/
theorem le_targetExponent_div (hm : 0 < m) (hn : 0 < n) {g : Int} {k : Nat} (hk : e - f = g + k)
    (hg : g ≤ format.targetExponent (totalExponent m e - totalExponent n f)) :
    g ≤ format.targetExponent (totalExponent (m * 2 ^ k / n) g) := by
  refine le_targetExponent_of_full hg fun hplace => ?_
  rw [totalExponent, totalExponent, Format.mantissaBits] at hplace
  have hdigits : n.log2 + 1 + format.mantissaBitsWithoutImplicit ≤ m.log2 + k := by omega
  rw [Nat.le_div_iff_mul_le hn, mul_comm]
  calc n * 2 ^ format.mantissaBitsWithoutImplicit
      ≤ 2 ^ (n.log2 + 1) * 2 ^ format.mantissaBitsWithoutImplicit :=
        Nat.mul_le_mul_right _ Nat.lt_log2_self.le
    _ ≤ 2 ^ (m.log2 + k) := by
        rw [← pow_add]
        exact Nat.pow_le_pow_right two_pos hdigits
    _ ≤ m * 2 ^ k := two_pow_log2_add_le hm k

/-- Quotients are rounded faithfully. -/
theorem rounds_div (sign sign' : Sign) (hm : 0 < m) (hn : 0 < n) :
    Rounds format (sign / sign') (m * 2 ^ e / (n * 2 ^ f))
      (div format (.finite sign m e hm) (.finite sign' n f hn)) := by
  set g := min (e - f) (format.targetExponent (totalExponent m e - totalExponent n f)) with hg
  obtain ⟨k, hk⟩ := Int.le.dest (min_le_left (e - f)
    (format.targetExponent (totalExponent m e - totalExponent n f)))
  rw [← hg] at hk
  have hrounds := rounds_roundWithAccuracy (brackets_div (m * 2 ^ k) hn)
    (le_targetExponent_div hm hn hk.symm (min_le_right _ _)) (sign / sign')
  have hvalue : ((m * 2 ^ k : Nat) : ℝ) / n * 2 ^ g = m * 2 ^ e / (n * 2 ^ f) := by
    rw [show e = f + (g + k) by omega, zpow_add₀ two_ne_zero f, zpow_add₀ two_ne_zero g,
      zpow_natCast]
    push_cast
    field_simp
  rw [hvalue] at hrounds
  simp only [div, divCore, ← hg, Nat.shiftLeft_eq]
  rw [show (e - f - g).toNat = k by omega]
  exact hrounds

/-- The whole part of a root, with what is known of the rest, brackets it. -/
theorem brackets_sqrt (m : Nat) :
    Brackets (ExtendedMantissa.ofMantissaAndAccuracy m.sqrt
      (if m - m.sqrt * m.sqrt = 0 then .exact
      else .inexact (if m - m.sqrt * m.sqrt ≤ m.sqrt then .lt else .gt))) √m := by
  have hle := Nat.sqrt_le m
  split_ifs with hrest
  · have hsquare : m.sqrt * m.sqrt = m := by omega
    have hroot : √(m : ℝ) = m.sqrt := by
      rw [Real.sqrt_eq_iff_mul_self_eq (Nat.cast_nonneg _) (Nat.cast_nonneg _)]
      exact_mod_cast hsquare.symm
    rw [hroot]
    exact brackets_exact _
  all_goals
    refine brackets_inexact ?_ Real.real_sqrt_lt_nat_sqrt_succ _
    rw [Real.lt_sqrt (Nat.cast_nonneg _), sq]
    have hless : m.sqrt * m.sqrt < m := by omega
    exact_mod_cast hless

/-- A square root is computed with digits to drop. -/
theorem le_targetExponent_sqrt (hm : 0 < m) {g : Int} {k : Nat} (hk : e = 2 * g + k)
    (hg : g ≤ format.targetExponent ((totalExponent m e + 1).ediv 2)) :
    g ≤ format.targetExponent (totalExponent (m * 2 ^ k).sqrt g) := by
  refine le_targetExponent_of_full hg fun hplace => ?_
  rw [totalExponent, Format.mantissaBits] at hplace
  change _ ≤ (m.log2 + 1 + e + 1) / 2 - g at hplace
  have hdigits : 2 * format.mantissaBitsWithoutImplicit ≤ m.log2 + k := by omega
  rw [Nat.le_sqrt, ← pow_add, ← two_mul]
  exact (Nat.pow_le_pow_right two_pos hdigits).trans (two_pow_log2_add_le hm k)

/-- Roots are rounded faithfully. -/
theorem rounds_sqrt (hm : 0 < m) :
    Rounds format .positive √(m * 2 ^ e) (sqrt format (.finite .positive m e hm)) := by
  set g := min (e.ediv 2) (format.targetExponent ((totalExponent m e + 1).ediv 2)) with hg
  have hhalf : g ≤ e / 2 := min_le_left _ _
  obtain ⟨k, hk⟩ := Int.le.dest (show 2 * g ≤ e by omega)
  have hrounds := rounds_roundWithAccuracy (brackets_sqrt (m * 2 ^ k))
    (le_targetExponent_sqrt hm hk.symm (min_le_right _ _)) .positive
  have hvalue : √((m * 2 ^ k : Nat) : ℝ) * 2 ^ g = √(m * 2 ^ e) := by
    rw [← hk, zpow_add₀ two_ne_zero, two_mul, zpow_add₀ two_ne_zero, zpow_natCast]
    have hunit : (2 : ℝ) ^ g = √(2 ^ g * 2 ^ g) := (Real.sqrt_mul_self (by positivity)).symm
    rw [hunit, ← Real.sqrt_mul (Nat.cast_nonneg _), ← hunit]
    push_cast
    congr 1
    ring
  rw [hvalue] at hrounds
  simp only [sqrt, sqrtCore, ← hg, Nat.shiftLeft_eq]
  rw [show (e - 2 * g).toNat = k by omega]
  exact hrounds

end CollisionWatch.Decimal
