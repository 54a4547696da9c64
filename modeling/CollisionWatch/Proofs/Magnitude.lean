import CollisionWatch.Proofs.Decimal.Rounding
import CollisionWatch.Proofs.Single
import Mathlib

/-!
# Magnitudes in single precision

The magnitude of a float is its value without the sign; an infinity counts as `2 ^ 128`, the first
power of two past all finite floats, so that a float is finite if its magnitude is below it. An
operation gives a float of a known sign whose magnitude is the exact result, rounded without passing
a magnitude (`Gives`): products (`gives_mul`), sums without a sign (`gives_add`), quotients
(`gives_div`) and square roots (`gives_sqrt`). Floats without a sign are ordered by their magnitudes
(`le_iff_magnitude_le`).
-/

namespace CollisionWatch.Single

open Float.Model (UnpackedFloat Format)
open Float.Model.UnpackedFloat
open Decimal

/-! ## Magnitudes -/

/-- The value without the sign; past all finite values for an infinity. -/
noncomputable def unpackedMagnitude : UnpackedFloat → ℝ
  | .finite _ m e _ => m * (2 : Nat) ^ e
  | .infinity _ => (2 ^ 128 : Nat)
  | _ => 0

/-- The value of a float without its sign. -/
noncomputable def magnitude (x : Float32) : ℝ := unpackedMagnitude x.toModel.unpack

/-- The number is the magnitude of a float. -/
structure IsMagnitude (a : ℝ) : Prop where
  /-- It has no more digits than floats have, -/
  fits : Fits .binary32 a
  /-- and is at most that of an infinity. -/
  le : a ≤ 2 ^ (128 : Int)

/-- Powers of two are magnitudes, as far as singles go and one beyond. -/
theorem isMagnitude_two_zpow {k : Int} (hlow : -149 ≤ k) (hhigh : k ≤ 128) :
    IsMagnitude (2 ^ k) := by
  refine ⟨?_, zpow_le_zpow_right₀ one_le_two hhigh⟩
  have hfits : Fits .binary32 ((1 : Nat) * 2 ^ k) := .intro 1 k (by decide) hlow
  rwa [Nat.cast_one, one_mul] at hfits

/-- A significand has at most twenty-four digits, -/
theorem mul_zpow_lt {m : Nat} (hm : 0 < m) (hlog : m.log2 ≤ 23) (e : Int) :
    (m * 2 ^ e : ℝ) < 2 ^ 24 * 2 ^ e := by
  have hdigits : m < 2 ^ 24 := (Nat.log2_lt hm.ne').1 (by omega)
  gcongr
  exact_mod_cast hdigits

/-- and all of them unless the exponent is the least one. -/
theorem le_mul_zpow {m : Nat} {e : Int} (hm : 0 < m) (h : IsCanonical .binary32 m e)
    (he : -149 < e) : (2 ^ 23 * 2 ^ e : ℝ) ≤ m * 2 ^ e := by
  have hfull : 2 ^ 23 ≤ m := by
    rw [← Nat.le_log2 hm.ne']
    simp only [IsCanonical, Format.targetExponent, Float.Model.totalExponent,
      Format.mantissaBits, Format.minExponent] at h
    omega
  gcongr
  exact_mod_cast hfull

/-- The unpacked float is a number of this sign. -/
inductive IsSigned (sign : Sign) : UnpackedFloat → Prop
  /-- A zero. -/
  | zero : IsSigned sign (.zero sign)
  /-- A finite number. -/
  | finite {m : Nat} {e : Int} (hm : 0 < m) : IsSigned sign (.finite sign m e hm)
  /-- An infinity. -/
  | infinity : IsSigned sign (.infinity sign)

variable {x y : Float32} {sign sign' : Sign} {v : ℝ} {m : Nat} {e : Int} {hm : 0 < m}

/-- A zero has the magnitude nought. -/
theorem magnitude_of_zero (h : x.toModel.unpack = .zero sign) : magnitude x = 0 := by
  rw [magnitude, h, unpackedMagnitude] <;> nofun

/-- A finite single has the magnitude of its significand at its exponent. -/
theorem magnitude_of_finite (h : x.toModel.unpack = .finite sign m e hm) :
    magnitude x = m * 2 ^ e := by
  rw [magnitude, h, unpackedMagnitude, Nat.cast_ofNat]

/-- An infinity counts as the first power of two that is too large. -/
theorem magnitude_of_infinity (h : x.toModel.unpack = .infinity sign) :
    magnitude x = 2 ^ (128 : Int) := by
  rw [magnitude, h, unpackedMagnitude]
  norm_num

/-- What has a sign is a number. -/
theorem IsSigned.isNaN {a : UnpackedFloat} (h : IsSigned sign a) : a.isNaN = false := by
  cases h <;> rfl

/-- Every number has a sign. -/
theorem exists_isSigned (h : x.isNaN = false) : ∃ sign, IsSigned sign x.toModel.unpack := by
  change x.toModel.unpack.isNaN = false at h
  cases hx : x.toModel.unpack with
  | notANumber => rw [hx] at h; cases h
  | infinity sign => exact ⟨sign, .infinity⟩
  | zero sign => exact ⟨sign, .zero⟩
  | finite sign m e hm => exact ⟨sign, .finite hm⟩

/-- An infinity is packed and read off again. -/
theorem unpack_pack_infinity (sign : Sign) :
    unpack .binary32 (pack .binary32 (.infinity sign)) = .infinity sign := by
  cases sign <;> rfl

/-- Too large an exponent is packed as an infinity. -/
theorem unpack_pack_of_large (hm : 0 < m) (he : 105 ≤ e) (sign : Sign) :
    unpack .binary32 (pack .binary32 (.finite sign m e hm)) = .infinity sign := by
  have hbias : Format.binary32.exponentBias = 127 := rfl
  have hpack : pack .binary32 (.finite sign m e hm) = packedInfinity .binary32 sign := by
    rw [pack, if_pos]
    rw [hbias]
    norm_num
    omega
  rw [hpack]
  exact unpack_pack_infinity sign

/-- Finite floats have no large exponent. -/
theorem exponent_le_of_unpack (h : x.toModel.unpack = .finite sign m e hm) : e ≤ 104 := by
  by_contra hlarge
  have hagain := unpack_pack_unpack x.toModel.toBits.toBitVec
  change unpack .binary32 (pack .binary32 x.toModel.unpack) = x.toModel.unpack at hagain
  rw [h, unpack_pack_of_large hm (by omega)] at hagain
  cases hagain

/-- No magnitude is below nought. -/
theorem unpackedMagnitude_nonneg (a : UnpackedFloat) : 0 ≤ unpackedMagnitude a := by
  cases a <;> simp only [unpackedMagnitude] <;> positivity

/-- The magnitude of a single is not negative. -/
theorem magnitude_nonneg (x : Float32) : 0 ≤ magnitude x := unpackedMagnitude_nonneg _

/-- **A number is finite if its magnitude is below all that infinities have.** -/
theorem isFinite_iff (h : x.isNaN = false) : x.isFinite = true ↔ magnitude x < 2 ^ (128 : Int) := by
  obtain ⟨sign, hsigned⟩ := exists_isSigned h
  change x.toModel.unpack.isFinite = true ↔ _
  generalize hx : x.toModel.unpack = a at hsigned ⊢
  cases hsigned with
  | zero =>
    rw [magnitude_of_zero hx]
    exact iff_of_true rfl (zpow_pos two_pos _)
  | infinity =>
    rw [magnitude_of_infinity hx]
    exact iff_of_false nofun (lt_irrefl _)
  | @finite m e hm =>
    rw [magnitude_of_finite hx]
    refine iff_of_true rfl ?_
    obtain ⟨-, hlog, -⟩ := isCanonical_of_unpack_single hx
    have hexponent := exponent_le_of_unpack hx
    calc (m : ℝ) * 2 ^ e < 2 ^ 24 * 2 ^ e := mul_zpow_lt hm hlog e
      _ ≤ 2 ^ 24 * 2 ^ (104 : Int) := by
          gcongr
          exact one_le_two
      _ = 2 ^ (128 : Int) := by norm_num

/-- The float with the value `2 ^ k`, if there is a normal one. -/
def power (k : Int) : Float32 :=
  .ofModel (.pack (.finite .positive (2 ^ 23) (k - 23) (Nat.two_pow_pos 23)))

/-- A power of two has the smallest full significand. -/
theorem unpack_power {k : Int} (hlow : -126 ≤ k) (hhigh : k ≤ 127) :
    (power k).toModel.unpack = .finite .positive (2 ^ 23) (k - 23) (Nat.two_pow_pos 23) := by
  have hbias : Format.binary32.exponentBias = 127 := rfl
  have hcanonical : IsCanonical .binary32 (2 ^ 23) (k - 23) := by
    simp only [IsCanonical, Float.Model.totalExponent, Nat.log2_two_pow, Format.targetExponent,
      Format.mantissaBits, Format.minExponent]
    omega
  exact unpack_pack_of_canonical hcanonical (Nat.two_pow_pos 23) .positive (by decide)
    (by rw [hbias]; norm_num; omega)

/-- A power of two is positive. -/
theorem isSigned_power {k : Int} (hlow : -126 ≤ k) (hhigh : k ≤ 127) :
    IsSigned .positive (power k).toModel.unpack :=
  unpack_power hlow hhigh ▸ .finite _

/-- The magnitude of a power of two is that power. -/
theorem magnitude_power {k : Int} (hlow : -126 ≤ k) (hhigh : k ≤ 127) :
    magnitude (power k) = 2 ^ k := by
  rw [magnitude_of_finite (unpack_power hlow hhigh), zpow_sub₀ two_ne_zero]
  push_cast
  field_simp
  norm_num

/-! ## Results -/

/-- The float has the sign, and its magnitude is the value, rounded. -/
structure Gives (sign : Sign) (v : ℝ) (x : Float32) : Prop where
  /-- The float is a number of this sign. -/
  signed : IsSigned sign x.toModel.unpack
  /-- Rounding has passed no magnitude. -/
  faithful : Faithful IsMagnitude v (magnitude x)

/-- A result with a sign is a number. -/
theorem Gives.isNaN (h : Gives sign v x) : x.isNaN = false := h.signed.isNaN

/-- **A rounded result is packed as a float.** -/
theorem gives_of_rounds {a : UnpackedFloat} (h : Rounds .binary32 sign v a)
    (hx : x.toModel.unpack = unpack .binary32 (pack .binary32 a)) : Gives sign v x := by
  cases h with
  | zero hfaithful =>
    have hzero : unpack .binary32 (pack .binary32 (.zero sign)) = .zero sign := unpack_packedZero
    rw [hzero] at hx
    refine ⟨hx ▸ .zero, ?_⟩
    rw [magnitude_of_zero hx]
    exact hfaithful.mono fun _ => IsMagnitude.fits
  | @finite m e hm hcanonical hfaithful =>
    rcases le_or_gt 105 e with he | he
    · rw [unpack_pack_of_large hm he] at hx
      refine ⟨hx ▸ .infinity, ?_⟩
      rw [magnitude_of_infinity hx]
      refine ⟨fun a ha _ => ha.le, fun a ha hle => ?_⟩
      calc (2 ^ (128 : Int) : ℝ) = 2 ^ 23 * 2 ^ (105 : Int) := by norm_num
        _ ≤ 2 ^ 23 * 2 ^ e := by
            gcongr
            exact one_le_two
        _ ≤ m * 2 ^ e := le_mul_zpow hm hcanonical (by omega)
        _ ≤ a := hfaithful.ge_of_ge a ha.fits hle
    · have hbias : Format.binary32.exponentBias = 127 := rfl
      rw [unpack_pack_of_canonical hcanonical hm sign (by decide)
        (by rw [hbias]; norm_num; omega)] at hx
      refine ⟨hx ▸ .finite hm, ?_⟩
      rw [magnitude_of_finite hx]
      exact hfaithful.mono fun _ => IsMagnitude.fits

/-- A power of two that bounds the value bounds the magnitude, from above -/
theorem Gives.le_two_zpow (h : Gives sign v x) {k : Int} (hlow : -149 ≤ k) (hhigh : k ≤ 128)
    (hv : v ≤ 2 ^ k) : magnitude x ≤ 2 ^ k :=
  h.faithful.ge_of_ge _ (isMagnitude_two_zpow hlow hhigh) hv

/-- and from below. -/
theorem Gives.two_zpow_le (h : Gives sign v x) {k : Int} (hlow : -149 ≤ k) (hhigh : k ≤ 128)
    (hv : 2 ^ k ≤ v) : 2 ^ k ≤ magnitude x :=
  h.faithful.le_of_le _ (isMagnitude_two_zpow hlow hhigh) hv

/-! ## Operations -/

/-- A finite number is a zero, or has a canonical significand. -/
theorem exists_unpack_eq (h : IsSigned sign x.toModel.unpack) (hx : x.isFinite = true) :
    x.toModel.unpack = .zero sign ∨ ∃ m e hm, x.toModel.unpack = .finite sign m e hm ∧
      IsCanonical .binary32 m e := by
  change x.toModel.unpack.isFinite = true at hx
  generalize hunpack : x.toModel.unpack = a at h hx
  cases h with
  | zero => exact .inl rfl
  | infinity => cases hx
  | finite hm => exact .inr ⟨_, _, hm, rfl, (isCanonical_of_unpack_single hunpack).1⟩

/-- A magnitude that is a float already is not rounded. -/
theorem gives_of_unpack_eq (hx : IsSigned sign x.toModel.unpack)
    (h : y.toModel.unpack = x.toModel.unpack) : Gives sign (magnitude x) y := by
  refine ⟨h ▸ hx, ?_⟩
  rw [magnitude, magnitude, h]
  exact .refl _ _

/-- Nothing is rounded to a zero, -/
theorem gives_zero (h : x.toModel.unpack = .zero sign) : Gives sign 0 x := by
  have hsigned : IsSigned sign x.toModel.unpack := h ▸ .zero
  have hgives := gives_of_unpack_eq hsigned rfl
  rwa [magnitude_of_zero h] at hgives

/-- and what is beyond all finite floats to an infinity. -/
theorem gives_infinity (h : x.toModel.unpack = .infinity sign) (hv : 2 ^ (128 : Int) ≤ v) :
    Gives sign v x := by
  refine ⟨h ▸ .infinity, ?_⟩
  rw [magnitude_of_infinity h]
  exact ⟨fun a ha _ => ha.le, fun _ _ => hv.trans⟩

/-- A product of finite singles is a single next to the product of their magnitudes. -/
theorem gives_mul (hsx : IsSigned sign x.toModel.unpack) (hsy : IsSigned sign' y.toModel.unpack)
    (hx : x.isFinite = true) (hy : y.isFinite = true) :
    Gives (sign * sign') (magnitude x * magnitude y) (x * y) := by
  have hunpack : (x * y).toModel.unpack = unpack .binary32
    (pack .binary32 (mul .binary32 x.toModel.unpack y.toModel.unpack)) := rfl
  rcases exists_unpack_eq hsx hx with hx | ⟨m, e, hm, hx, hcanonical⟩ <;>
    rcases exists_unpack_eq hsy hy with hy | ⟨n, f, hn, hy, hcanonical'⟩ <;>
    rw [hx, hy] at hunpack
  case inr.inr =>
    rw [magnitude_of_finite hx, magnitude_of_finite hy]
    exact gives_of_rounds (rounds_mul sign sign' hm hn hcanonical hcanonical') hunpack
  case inl.inr =>
    rw [magnitude_of_zero hx, zero_mul]
    exact gives_zero (hunpack.trans unpack_packedZero)
  all_goals
    rw [magnitude_of_zero hy, mul_zero]
    exact gives_zero (hunpack.trans unpack_packedZero)

/-- A sum of singles that are not negative is a single next to the sum of their magnitudes. -/
theorem gives_add (hsx : IsSigned .positive x.toModel.unpack)
    (hsy : IsSigned .positive y.toModel.unpack) :
    Gives .positive (magnitude x + magnitude y) (x + y) := by
  have hunpack : (x + y).toModel.unpack = unpack .binary32
    (pack .binary32 (add .binary32 x.toModel.unpack y.toModel.unpack)) := rfl
  have hpacked : ∀ z : Float32,
      unpack .binary32 (pack .binary32 z.toModel.unpack) = z.toModel.unpack :=
    fun z => unpack_pack_unpack z.toModel.toBits.toBitVec
  generalize hx : x.toModel.unpack = a at hsx hunpack
  generalize hy : y.toModel.unpack = b at hsy hunpack
  cases hsx with
  | infinity =>
    refine gives_infinity ?_ ?_
    · cases hsy <;> exact hunpack.trans (unpack_pack_infinity .positive)
    · rw [magnitude_of_infinity hx]
      exact le_add_of_nonneg_right (magnitude_nonneg y)
  | zero =>
    rw [magnitude_of_zero hx, zero_add]
    refine gives_of_unpack_eq (hy ▸ hsy) ?_
    rw [hunpack, ← hpacked y, hy]
    cases hsy <;> rfl
  | finite hm =>
    cases hsy with
    | infinity =>
      refine gives_infinity (hunpack.trans (unpack_pack_infinity .positive)) ?_
      rw [magnitude_of_infinity hy]
      exact le_add_of_nonneg_left (magnitude_nonneg x)
    | zero =>
      rw [magnitude_of_zero hy, add_zero]
      refine gives_of_unpack_eq (hx ▸ .finite hm) ?_
      rw [hunpack, ← hpacked x, hx]
      rfl
    | finite hn =>
      rw [magnitude_of_finite hx, magnitude_of_finite hy]
      exact gives_of_rounds (rounds_add hm hn) hunpack

/-- A quotient of finite singles is a single next to the quotient of their magnitudes. -/
theorem gives_div (hsx : IsSigned sign x.toModel.unpack) (hsy : IsSigned sign' y.toModel.unpack)
    (hx : x.isFinite = true) (hy : y.isFinite = true) (hpos : 0 < magnitude y) :
    Gives (sign / sign') (magnitude x / magnitude y) (x / y) := by
  have hunpack : (x / y).toModel.unpack = unpack .binary32
    (pack .binary32 (div .binary32 x.toModel.unpack y.toModel.unpack)) := rfl
  rcases exists_unpack_eq hsy hy with hy | ⟨n, f, hn, hy, -⟩
  · rw [magnitude_of_zero hy] at hpos
    exact absurd hpos (lt_irrefl _)
  · rcases exists_unpack_eq hsx hx with hx | ⟨m, e, hm, hx, -⟩ <;> rw [hx, hy] at hunpack
    · rw [magnitude_of_zero hx, zero_div]
      exact gives_zero (hunpack.trans unpack_packedZero)
    · rw [magnitude_of_finite hx, magnitude_of_finite hy]
      exact gives_of_rounds (rounds_div sign sign' hm hn) hunpack

/-- A root of a finite single that is not negative is a single next to the root of its magnitude.
-/
theorem gives_sqrt (hsx : IsSigned .positive x.toModel.unpack) (hx : x.isFinite = true) :
    Gives .positive √(magnitude x) x.sqrt := by
  have hunpack : x.sqrt.toModel.unpack = unpack .binary32
    (pack .binary32 (sqrt .binary32 x.toModel.unpack)) := rfl
  rcases exists_unpack_eq hsx hx with hx | ⟨m, e, hm, hx, -⟩ <;> rw [hx] at hunpack
  · rw [magnitude_of_zero hx, Real.sqrt_zero]
    exact gives_zero (hunpack.trans unpack_packedZero)
  · rw [magnitude_of_finite hx]
    exact gives_of_rounds (rounds_sqrt hm) hunpack

/-- The square root of a finite float is far from the largest floats. -/
theorem magnitude_sqrt_le (hsx : IsSigned .positive x.toModel.unpack) (hx : x.isFinite = true) :
    magnitude x.sqrt ≤ 2 ^ (64 : Int) := by
  refine (gives_sqrt hsx hx).le_two_zpow (by norm_num) (by norm_num) ?_
  rw [Real.sqrt_le_left (by positivity)]
  refine ((isFinite_iff hsx.isNaN).1 hx).le.trans ?_
  norm_num

/-- A square root is finite if and only if it is taken of something finite. -/
theorem isFinite_sqrt_iff (hsx : IsSigned .positive x.toModel.unpack) :
    x.sqrt.isFinite = true ↔ x.isFinite = true := by
  constructor
  · intro h
    change (unpack .binary32 (pack .binary32 (sqrt .binary32 x.toModel.unpack))).isFinite = _ at h
    change x.toModel.unpack.isFinite = true
    generalize x.toModel.unpack = a at hsx h
    cases hsx with
    | zero => rfl
    | finite hm => rfl
    | infinity => cases h
  · intro h
    refine (isFinite_iff (gives_sqrt hsx h).isNaN).2 ((magnitude_sqrt_le hsx h).trans_lt ?_)
    norm_num

/-! ## Order -/

/-- A canonical number with a larger exponent is larger. -/
theorem mul_zpow_lt_mul_zpow {m n : Nat} {e f : Int} (hlog : m.log2 ≤ 23) (hm : 0 < m) (hn : 0 < n)
    (hlow : -149 ≤ e) (hcanonical : IsCanonical .binary32 n f) (h : e < f) :
    (m * 2 ^ e : ℝ) < n * 2 ^ f := by
  calc (m * 2 ^ e : ℝ) < 2 ^ 24 * 2 ^ e := mul_zpow_lt hm hlog e
    _ = 2 ^ 23 * 2 ^ (e + 1) := by
        rw [zpow_add_one₀ two_ne_zero]
        ring
    _ ≤ 2 ^ 23 * 2 ^ f := by
        gcongr
        · exact one_le_two
        · omega
    _ ≤ n * 2 ^ f := le_mul_zpow hn hcanonical (by omega)

/-- Ranks order canonical numbers without a sign as they are. -/
theorem unpackedRank_finite_le_iff {m n : Nat} {e f : Int} {hm : 0 < m} {hn : 0 < n}
    (hx : x.toModel.unpack = .finite .positive m e hm)
    (hy : y.toModel.unpack = .finite .positive n f hn) :
    Double.unpackedRank (.finite .positive m e hm) ≤
        Double.unpackedRank (.finite .positive n f hn) ↔
      (m * 2 ^ e : ℝ) ≤ n * 2 ^ f := by
  obtain ⟨hcanonical, hlog, hlow, -⟩ := isCanonical_of_unpack_single hx
  obtain ⟨hcanonical', hlog', hlow', -⟩ := isCanonical_of_unpack_single hy
  simp only [Double.unpackedRank, Prod.Lex.toLex_le_toLex, lt_self_iff_false, true_and, false_or,
    Nat.cast_le]
  rcases lt_trichotomy e f with h | rfl | h
  · exact iff_of_true (.inl h) (mul_zpow_lt_mul_zpow hlog hm hn hlow hcanonical' h).le
  · rw [mul_le_mul_iff_left₀ (zpow_pos two_pos e), Nat.cast_le]
    simp
  · refine iff_of_false (by omega) (not_le.2 ?_)
    exact mul_zpow_lt_mul_zpow hlog' hn hm hlow' hcanonical h

/-- **Floats without a sign are ordered by their magnitudes.** -/
theorem le_iff_magnitude_le (hx : IsSigned .positive x.toModel.unpack)
    (hy : IsSigned .positive y.toModel.unpack) : x ≤ y ↔ magnitude x ≤ magnitude y := by
  rw [le_iff, Double.unpacked_le_iff hx.isNaN hy.isNaN]
  -- Every finite magnitude is below that of an infinity, which is the next power of two.
  have hlimit : ∀ {z : Float32}, z.toModel.unpack.isFinite = true →
      magnitude z < 2 ^ (128 : Int) := fun h => (isFinite_iff (isNaN_of_isFinite h)).1 h
  generalize hxa : x.toModel.unpack = a at hx ⊢
  generalize hyb : y.toModel.unpack = b at hy ⊢
  cases hx with
  | zero =>
    rw [magnitude_of_zero hxa]
    refine iff_of_true ?_ (magnitude_nonneg y)
    cases hy <;> simp [Double.unpackedRank, Prod.Lex.toLex_le_toLex]
  | finite hm =>
    cases hy with
    | finite hn =>
      rw [magnitude_of_finite hxa, magnitude_of_finite hyb]
      exact unpackedRank_finite_le_iff hxa hyb
    | zero =>
      rw [magnitude_of_finite hxa, magnitude_of_zero hyb]
      refine iff_of_false ?_ (not_le.2 (by positivity))
      simp [Double.unpackedRank, Prod.Lex.toLex_le_toLex]
    | infinity =>
      rw [magnitude_of_infinity hyb]
      refine iff_of_true ?_ (hlimit (congrArg UnpackedFloat.isFinite hxa)).le
      simp [Double.unpackedRank, Prod.Lex.toLex_le_toLex]
  | infinity =>
    rw [magnitude_of_infinity hxa]
    cases hy with
    | infinity =>
      rw [magnitude_of_infinity hyb]
      exact iff_of_true le_rfl le_rfl
    | zero =>
      rw [magnitude_of_zero hyb]
      refine iff_of_false ?_ (not_le.2 (zpow_pos two_pos _))
      simp [Double.unpackedRank, Prod.Lex.toLex_le_toLex]
    | finite hn =>
      refine iff_of_false ?_ (hlimit (congrArg UnpackedFloat.isFinite hyb)).not_ge
      simp [Double.unpackedRank, Prod.Lex.toLex_le_toLex]

/-- The sign has no part in the magnitude. -/
theorem magnitude_abs (x : Float32) : magnitude x.abs = magnitude x := by
  rw [magnitude, magnitude, unpack_abs]
  cases x.toModel.unpack <;> rfl

/-- Without its sign a number is not negative. -/
theorem isSigned_abs (h : x.isNaN = false) : IsSigned .positive x.abs.toModel.unpack := by
  obtain ⟨sign, hsigned⟩ := exists_isSigned h
  rw [unpack_abs]
  generalize x.toModel.unpack = a at hsigned
  cases hsigned with
  | zero => exact .zero
  | infinity => exact .infinity
  | finite hm => exact .finite hm

/-- A float is at most a power of two, whatever its sign, if its magnitude is. -/
theorem abs_le_power_iff {k : Int} (hx : x.isNaN = false) (hlow : -126 ≤ k) (hhigh : k ≤ 127) :
    x.abs ≤ power k ↔ magnitude x ≤ 2 ^ k := by
  rw [le_iff_magnitude_le (isSigned_abs hx) (isSigned_power hlow hhigh), magnitude_abs,
    magnitude_power hlow hhigh]

/-- A number is as large as a power of two if its magnitude is. -/
theorem power_le_abs_iff {k : Int} (hx : x.isNaN = false) (hlow : -126 ≤ k) (hhigh : k ≤ 127) :
    power k ≤ x.abs ↔ 2 ^ k ≤ magnitude x := by
  rw [le_iff_magnitude_le (isSigned_power hlow hhigh) (isSigned_abs hx), magnitude_abs,
    magnitude_power hlow hhigh]

end CollisionWatch.Single
