import CollisionWatch.FrameTree.History
import Mathlib.Data.Int.Order.Basic
import Mathlib.Data.Prod.Lex

/-!
# The order of doubles

Doubles that are numbers are ordered by their sign, their exponent and their significand, in this
order; for negative ones the last two count backwards. `rank` reads these three off a double, and
`le_iff_rank_le` says that the comparison of doubles is the lexicographic comparison of ranks. So
the comparison is total on numbers (`le_or_le`), which is all that a search among stamps asks for. A
double that is not a number compares with nothing, and so comparisons that hold can be chained
(`le_trans`).
-/

namespace CollisionWatch

namespace Double

open Float.Model (UnpackedFloat)

/-- The double is a number, possibly an infinite one. -/
def IsNumber (x : Float) : Prop := x.isNaN = false

/-- Whether a double is a number can be computed. -/
instance (x : Float) : Decidable (IsNumber x) := inferInstanceAs (Decidable (x.isNaN = false))

/-- What places an unpacked double among the others: its sign, its exponent and its significand. -/
def unpackedRank : UnpackedFloat → Int ×ₗ Int ×ₗ Int
  | .infinity .negative => toLex (-2, toLex (0, 0))
  | .finite .negative significand exponent _ => toLex (-1, toLex (-exponent, -significand))
  | .zero _ => toLex (0, toLex (0, 0))
  | .finite .positive significand exponent _ => toLex (1, toLex (exponent, significand))
  | .infinity .positive => toLex (2, toLex (0, 0))
  | .notANumber => toLex (3, toLex (0, 0))

/-- What places a double among the others. -/
def rank (x : Float) : Int ×ₗ Int ×ₗ Int := unpackedRank x.toModel.unpack

/-- Two exponents and, where they agree, two significands. -/
theorem isLE_compare_then_iff (e f : Int) (m n : Nat) :
    ((compare e f).then (compare m n)).isLE = true ↔ e < f ∨ e = f ∧ m ≤ n := by
  rcases Int.lt_trichotomy e f with h | rfl | h
  · simp [Int.compare_eq_lt.2 h, h]
  · simp [Nat.isLE_compare]
  · simp [Int.compare_eq_gt.2 h]
    omega

/-- Exponents and then significands are compared, from the larger side. -/
theorem isGE_compare_then_iff (e f : Int) (m n : Nat) :
    ((compare e f).then (compare m n)).isGE = true ↔ f < e ∨ e = f ∧ n ≤ m := by
  rcases Int.lt_trichotomy e f with h | rfl | h
  · simp [Int.compare_eq_lt.2 h]
    omega
  · simp [Nat.isGE_compare]
  · simp [Int.compare_eq_gt.2 h, h]

/-- Unpacked numbers compare as their ranks do. -/
theorem unpacked_le_iff {a b : UnpackedFloat} (ha : a.isNaN = false) (hb : b.isNaN = false) :
    a.le b = true ↔ unpackedRank a ≤ unpackedRank b := by
  have hnot : ∀ {x : UnpackedFloat}, x.isNaN = false → x ≠ .notANumber := by
    rintro _ h rfl
    cases h
  replace ha := hnot ha
  replace hb := hnot hb
  rcases a with ⟨_ | _⟩ | _ | _ | ⟨_ | _, m, e, _⟩ <;>
    rcases b with ⟨_ | _⟩ | _ | _ | ⟨_ | _, n, f, _⟩ <;>
    first
    | exact absurd rfl ha
    | exact absurd rfl hb
    | clear ha hb
      dsimp only [UnpackedFloat.le, UnpackedFloat.compare, unpackedRank]
      simp [Prod.Lex.toLex_le_toLex, isLE_compare_then_iff, isGE_compare_then_iff] <;> decide

/-- Exponents and then significands are compared the same way from the other side. -/
theorem swap_compare_then (e f : Int) (m n : Nat) :
    ((compare e f).then (compare m n)).swap = (compare f e).then (compare n m) := by
  rw [Ordering.swap_then, ← Std.OrientedOrd.eq_swap, ← Std.OrientedOrd.eq_swap]

/-- A comparison can be made from the other side. -/
theorem compare_swap (a b : UnpackedFloat) : (a.compare b).map Ordering.swap = b.compare a := by
  rcases a with ⟨_ | _⟩ | _ | _ | ⟨_ | _, m, e, _⟩ <;>
    rcases b with ⟨_ | _⟩ | _ | _ | ⟨_ | _, n, f, _⟩ <;>
    first
    | rfl
    | exact congrArg some (swap_compare_then e f m n)
    | exact congrArg some (congrArg Ordering.swap (swap_compare_then e f m n))

/-- Two unpacked floats compare if both are numbers, and not otherwise. -/
theorem isSome_compare_iff (a b : UnpackedFloat) :
    (a.compare b).isSome = true ↔ a.isNaN = false ∧ b.isNaN = false := by
  rcases a with ⟨_ | _⟩ | _ | _ | ⟨_ | _, m, e, _⟩ <;>
    rcases b with ⟨_ | _⟩ | _ | _ | ⟨_ | _, n, f, _⟩ <;>
    first
    | exact iff_of_true rfl ⟨rfl, rfl⟩
    | exact iff_of_false nofun nofun

/-- Only numbers are at most one another. -/
theorem isNaN_of_le {a b : UnpackedFloat} (h : a.le b = true) :
    a.isNaN = false ∧ b.isNaN = false :=
  (isSome_compare_iff a b).1 (Option.isSome_of_any h)

/-- Only numbers are below one another. -/
theorem isNaN_of_lt {a b : UnpackedFloat} (h : a.lt b = true) :
    a.isNaN = false ∧ b.isNaN = false := by
  rw [← isSome_compare_iff, LawfulBEq.eq_of_beq h]
  rfl

/-- Unpacked numbers compare strictly as their ranks do. -/
theorem unpacked_lt_iff {a b : UnpackedFloat} (ha : a.isNaN = false) (hb : b.isNaN = false) :
    a.lt b = true ↔ unpackedRank a < unpackedRank b := by
  obtain ⟨order, horder⟩ := Option.isSome_iff_exists.1 ((isSome_compare_iff a b).2 ⟨ha, hb⟩)
  have hnot : a.lt b = true ↔ ¬ b.le a = true := by
    unfold UnpackedFloat.lt UnpackedFloat.le
    rw [← compare_swap a b, horder]
    cases order <;> simp
  rw [hnot, unpacked_le_iff hb ha, not_le]

/-- Doubles compare as they are unpacked. -/
theorem le_iff (x y : Float) : x ≤ y ↔ x.toModel.unpack.le y.toModel.unpack = true := by
  change Float.le x y = true ↔ _
  rw [Float.le, decide_eq_true_iff]
  exact Iff.rfl

/-- One double is less than another if its value is. -/
theorem lt_iff (x y : Float) : x < y ↔ x.toModel.unpack.lt y.toModel.unpack = true := by
  change Float.lt x y = true ↔ _
  rw [Float.lt, decide_eq_true_iff]
  exact Iff.rfl

/-- **Numbers compare as their ranks do.** -/
theorem le_iff_rank_le {x y : Float} (hx : IsNumber x) (hy : IsNumber y) :
    x ≤ y ↔ rank x ≤ rank y := by
  rw [le_iff, unpacked_le_iff hx hy]
  exact Iff.rfl

/-- Numbers compare strictly as their ranks do. -/
theorem lt_iff_rank_lt {x y : Float} (hx : IsNumber x) (hy : IsNumber y) :
    x < y ↔ rank x < rank y := by
  rw [lt_iff, unpacked_lt_iff hx hy]
  exact Iff.rfl

/-- Of two numbers one is at most the other. -/
theorem le_or_le {x y : Float} (hx : IsNumber x) (hy : IsNumber y) : x ≤ y ∨ y ≤ x := by
  rw [le_iff_rank_le hx hy, le_iff_rank_le hy hx]
  exact le_total (rank x) (rank y)

/-- Only numbers are at most one another. -/
theorem isNumber_of_le {x y : Float} (h : x ≤ y) : IsNumber x ∧ IsNumber y :=
  isNaN_of_le ((le_iff x y).1 h)

/-- Only numbers are below one another. -/
theorem isNumber_of_lt {x y : Float} (h : x < y) : IsNumber x ∧ IsNumber y :=
  isNaN_of_lt ((lt_iff x y).1 h)

/-- A number is no more than itself. -/
theorem le_refl {x : Float} (hx : IsNumber x) : x ≤ x := (le_or_le hx hx).elim id id

/-- Doubles in order one after the other are in order. -/
theorem le_trans {x y z : Float} (hxy : x ≤ y) (hyz : y ≤ z) : x ≤ z := by
  obtain ⟨hx, hy⟩ := isNumber_of_le hxy
  obtain ⟨-, hz⟩ := isNumber_of_le hyz
  rw [le_iff_rank_le hx hy] at hxy
  rw [le_iff_rank_le hy hz] at hyz
  rw [le_iff_rank_le hx hz]
  exact hxy.trans hyz

/-- **A number that is not at most another one is above it.** -/
theorem not_le_iff {x y : Float} (hx : IsNumber x) (hy : IsNumber y) : ¬ x ≤ y ↔ y < x := by
  rw [le_iff_rank_le hx hy, lt_iff_rank_lt hy hx, not_le]

/-- A number that is not below another one is at least as large. -/
theorem not_lt_iff {x y : Float} (hx : IsNumber x) (hy : IsNumber y) : ¬ x < y ↔ y ≤ x := by
  rw [lt_iff_rank_lt hx hy, le_iff_rank_le hy hx, not_lt]

/-- What is less is no more. -/
theorem le_of_lt {x y : Float} (h : x < y) : x ≤ y := by
  obtain ⟨hx, hy⟩ := isNumber_of_lt h
  rw [lt_iff_rank_lt hx hy] at h
  rw [le_iff_rank_le hx hy]
  exact h.le

/-- What is below is not above. -/
theorem not_le_of_lt {x y : Float} (h : x < y) : ¬ y ≤ x := by
  obtain ⟨hx, hy⟩ := isNumber_of_lt h
  exact (not_le_iff hy hx).2 h

/-- Unpacked floats are equal as numbers if each is at most the other. -/
theorem unpacked_beq_iff (a b : UnpackedFloat) :
    a.beq b = true ↔ a.le b = true ∧ b.le a = true := by
  unfold UnpackedFloat.beq UnpackedFloat.le
  rw [← compare_swap a b]
  cases hcompare : a.compare b with
  | none => simp
  | some order => cases order <;> simp

/-- Doubles are equal as numbers if each is at most the other. -/
theorem beq_iff (x y : Float) : (x == y) = true ↔ x ≤ y ∧ y ≤ x := by
  rw [le_iff, le_iff, ← unpacked_beq_iff]
  exact Iff.rfl

/-- An unpacked float that is finite is a number. -/
theorem isNaN_of_isFinite {a : UnpackedFloat} (h : a.isFinite = true) : a.isNaN = false := by
  cases a with
  | notANumber => cases h
  | infinity sign => rfl
  | zero sign => rfl
  | finite sign significand exponent hnormal => rfl

/-- A finite double is a number. -/
theorem isNumber_of_isFinite {x : Float} (h : x.isFinite = true) : IsNumber x :=
  isNaN_of_isFinite h

end Double

end CollisionWatch
