import CollisionWatch.Geometry.Pose
import CollisionWatch.Proofs.Decimal.Precision
import CollisionWatch.Proofs.Difference
import CollisionWatch.Proofs.Single

/-!
# What floating-point arithmetic leaves as it is

Floating-point arithmetic does not round where a factor is one or a summand is zero: the product is
the other factor, and the sum the other summand, up to the sign of a zero. `Same` says that two
floats are the same up to that sign. So the rotation that turns nothing leaves the coordinates of a
vector as they are (`same_rotate_identity`), and so does a blend with no weight (`same_lerp`).

A zero times an infinity is not a number, so all this asks for finite coordinates.
-/

namespace CollisionWatch.Single

open Float.Model (UnpackedFloat Format)
open Float.Model.UnpackedFloat
open Double (IsZeroUnpacked isZeroUnpacked_pack)

/-! ## The same float up to the sign of a zero -/

/-- The unpacked floats are the same, or both are zeros. -/
def SameUnpacked (a b : UnpackedFloat) : Prop := a = b ∨ IsZeroUnpacked a ∧ IsZeroUnpacked b

/-- The float is a zero. -/
def IsZero (x : Float32) : Prop := IsZeroUnpacked x.toModel.unpack

/-- The floats are the same, or both are zeros. -/
def Same (x y : Float32) : Prop := SameUnpacked x.toModel.unpack y.toModel.unpack

variable {x y z : Float32}

/-- Every single is the same as itself. -/
theorem Same.refl (x : Float32) : Same x x := .inl rfl

/-- Sameness of singles is transitive. -/
theorem Same.trans (hxy : Same x y) (hyz : Same y z) : Same x z := by
  unfold Same SameUnpacked at *
  rcases hxy with hxy | ⟨hx, hy⟩
  · rwa [hxy]
  · rcases hyz with hyz | ⟨-, hz⟩
    · exact .inr ⟨hx, hyz ▸ hy⟩
    · exact .inr ⟨hx, hz⟩

/-- What is the same as a finite float is finite. -/
theorem Same.isFinite (h : Same x y) (hy : y.isFinite = true) : x.isFinite = true := by
  rcases h with heq | ⟨⟨sign, hx⟩, -⟩
  · exact (congrArg UnpackedFloat.isFinite heq).trans hy
  · exact congrArg UnpackedFloat.isFinite hx

/-- **What is the same as a finite float is equal to it as a number.** -/
theorem Same.beq (h : Same x y) (hy : y.isFinite = true) : (x == y) = true := by
  have hnumber : ∀ {a : UnpackedFloat}, a.isFinite = true → a ≠ .notANumber := by
    rintro _ ha rfl
    cases ha
  change x.toModel.unpack.beq y.toModel.unpack = true
  refine (beq_iff_ne_notANumber_and_eq _ _).2 ⟨hnumber (h.isFinite hy), hnumber hy, ?_⟩
  rcases h with heq | ⟨⟨sign, hx⟩, ⟨sign', hy'⟩⟩
  · exact .inl heq
  · rw [hx, hy']
    cases sign <;> cases sign' <;> simp

/-- What is the same as a zero is a zero. -/
theorem Same.isZero (h : Same x y) (hy : IsZero y) : IsZero x := by
  rcases h with heq | ⟨hx, -⟩
  · unfold IsZero at *
    rwa [heq]
  · exact hx

/-- The number nought is a zero. -/
theorem isZero_zero : IsZero 0 := ⟨.positive, rfl⟩

/-- A zero negated is a zero. -/
theorem IsZero.neg (h : IsZero x) : IsZero (-x) := by
  obtain ⟨sign, hx⟩ := h
  exact ⟨-sign, by rw [unpack_neg, hx]; rfl⟩

/-- A zero is finite. -/
theorem IsZero.isFinite (h : IsZero x) : x.isFinite = true := by
  obtain ⟨sign, hx⟩ := h
  exact congrArg UnpackedFloat.isFinite hx

/-! ## Packing -/

/-- A result that is the same as a float is so when it is packed. -/
theorem sameUnpacked_pack {a : UnpackedFloat} (h : SameUnpacked a x.toModel.unpack) :
    SameUnpacked (unpack .binary32 (pack .binary32 a)) x.toModel.unpack := by
  rcases h with rfl | ⟨ha, hx⟩
  · exact .inl (unpack_pack_unpack x.toModel.toBits.toBitVec)
  · exact .inr ⟨isZeroUnpacked_pack ha, hx⟩

/-- A double that is zero is narrowed to one. -/
theorem isZero_narrow {x : Float} (h : Double.IsZero x) : IsZero (Decimal.narrow x) := by
  obtain ⟨sign, hx⟩ := h
  refine isZeroUnpacked_pack ⟨sign, ?_⟩
  rw [hx]
  rfl

/-! ## Sums and differences with a zero -/

/-- A zero behind changes nothing. -/
theorem same_add_right (hz : IsZero z) (x : Float32) : Same (x + z) x := by
  refine sameUnpacked_pack ?_
  obtain ⟨sign, hz⟩ := hz
  rw [hz]
  cases x.toModel.unpack with
  | zero sign' => cases sign <;> cases sign' <;> exact .inr ⟨⟨_, rfl⟩, ⟨_, rfl⟩⟩
  | _ => exact .inl rfl

/-- A zero in front changes nothing. -/
theorem same_add_left (hz : IsZero z) (x : Float32) : Same (z + x) x := by
  refine sameUnpacked_pack ?_
  obtain ⟨sign, hz⟩ := hz
  rw [hz]
  cases x.toModel.unpack with
  | zero sign' => cases sign <;> cases sign' <;> exact .inr ⟨⟨_, rfl⟩, ⟨_, rfl⟩⟩
  | _ => exact .inl rfl

/-- A zero taken away changes nothing. -/
theorem same_sub (hz : IsZero z) (x : Float32) : Same (x - z) x := by
  refine sameUnpacked_pack ?_
  obtain ⟨sign, hz⟩ := hz
  rw [hz]
  cases x.toModel.unpack with
  | zero sign' => cases sign <;> cases sign' <;> exact .inr ⟨⟨_, rfl⟩, ⟨_, rfl⟩⟩
  | _ => exact .inl rfl

/-- A zero on the right of a sum makes no difference. -/
theorem Same.add_zero (h : Same x y) (hz : IsZero z) : Same (x + z) y :=
  (same_add_right hz x).trans h

/-- A zero on the left of a sum makes no difference. -/
theorem Same.zero_add (h : Same x y) (hz : IsZero z) : Same (z + x) y :=
  (same_add_left hz x).trans h

/-- A zero that is taken away makes no difference. -/
theorem Same.sub_zero (h : Same x y) (hz : IsZero z) : Same (x - z) y := (same_sub hz x).trans h

/-- The sum of two zeros is a zero. -/
theorem IsZero.add (hx : IsZero x) (hy : IsZero y) : IsZero (x + y) :=
  (same_add_right hy x).isZero hx

/-- The difference of two zeros is a zero. -/
theorem IsZero.sub (hx : IsZero x) (hy : IsZero y) : IsZero (x - y) := (same_sub hy x).isZero hx

/-! ## Products with a zero and with one -/

/-- A zero times a finite single is a zero. -/
theorem isZero_mul_right (hz : IsZero z) (hx : x.isFinite = true) : IsZero (x * z) := by
  refine isZeroUnpacked_pack ?_
  obtain ⟨sign, hz⟩ := hz
  change x.toModel.unpack.isFinite = true at hx
  rw [hz]
  cases hunpack : x.toModel.unpack with
  | zero sign' => exact ⟨_, rfl⟩
  | finite sign' m e hm => exact ⟨_, rfl⟩
  | infinity sign' => rw [hunpack] at hx; cases hx
  | notANumber => rw [hunpack] at hx; cases hx

/-- The factors of a product may change places. -/
theorem mul_comm (x y : Float32) : x * y = y * x := by
  have hsign : ∀ s t : Sign, s * t = t * s := fun s t => by cases s <;> cases t <;> rfl
  have hunpacked : mul .binary32 x.toModel.unpack y.toModel.unpack =
      mul .binary32 y.toModel.unpack x.toModel.unpack := by
    cases x.toModel.unpack <;> cases y.toModel.unpack <;>
      simp only [mul, hsign, Nat.mul_comm, Int.add_comm]
  exact congrArg (fun a => Float32.ofModel (.pack a)) hunpacked

/-- A zero times a finite single is a zero, in whatever order. -/
theorem isZero_mul_left (hz : IsZero z) (hx : x.isFinite = true) : IsZero (z * x) := by
  rw [mul_comm]
  exact isZero_mul_right hz hx

/-- One as it is unpacked. -/
theorem unpack_one :
    (1 : Float32).toModel.unpack = .finite .positive (2 ^ 23) (-23) (Nat.two_pow_pos 23) := rfl

/-- **A product with one is the other factor.** -/
theorem same_mul_one (hy : y.toModel.unpack = (1 : Float32).toModel.unpack) (x : Float32) :
    Same (x * y) x := by
  refine sameUnpacked_pack ?_
  rw [hy, unpack_one]
  cases hunpack : x.toModel.unpack with
  | notANumber => exact .inl rfl
  | infinity sign => cases sign <;> exact .inl rfl
  | zero sign => exact .inr ⟨⟨_, rfl⟩, ⟨_, rfl⟩⟩
  | finite sign m e hm =>
    obtain ⟨hcanonical, -⟩ := Decimal.isCanonical_of_unpack_single hunpack
    have hround := Decimal.roundWithAccuracy_of_canonical hcanonical hm sign 23
    have hsign : sign * .positive = sign := by cases sign <;> rfl
    refine .inl ?_
    rw [mul, hsign]
    exact hround

/-- **A product with minus one is the other factor negated.** -/
theorem same_mul_neg_one (x : Float32) : Same (x * -1) (-x) := by
  have hone : (-1 : Float32).toModel.unpack =
      .finite .negative (2 ^ 23) (-23) (Nat.two_pow_pos 23) := rfl
  refine sameUnpacked_pack ?_
  rw [hone, unpack_neg]
  cases hunpack : x.toModel.unpack with
  | notANumber => exact .inl rfl
  | infinity sign => cases sign <;> exact .inl rfl
  | zero sign => exact .inr ⟨⟨_, rfl⟩, ⟨_, rfl⟩⟩
  | finite sign m e hm =>
    obtain ⟨hcanonical, -⟩ := Decimal.isCanonical_of_unpack_single hunpack
    have hround := Decimal.roundWithAccuracy_of_canonical hcanonical hm (-sign) 23
    have hsign : sign * .negative = -sign := by cases sign <;> rfl
    refine .inl ?_
    rw [mul, hsign]
    exact hround

/-- One less a zero is one. -/
theorem unpack_one_sub (hz : IsZero z) :
    (1 - z).toModel.unpack = (1 : Float32).toModel.unpack := by
  rcases same_sub hz 1 with heq | ⟨-, ⟨sign, hone⟩⟩
  · exact heq
  · rw [unpack_one] at hone
    cases hone

/-- A factor of one makes no difference. -/
theorem Same.mul_one (h : Same x y) : Same (x * 1) y := (same_mul_one rfl x).trans h

/-- A factor of one on the left makes no difference. -/
theorem Same.one_mul (h : Same x y) : Same (1 * x) y := by
  rw [mul_comm]
  exact h.mul_one

end CollisionWatch.Single

namespace CollisionWatch

open Single (IsZero)

/-! ## Vectors -/

namespace Vector3

/-- The coordinates of the vectors are the same, up to the signs of zeros. -/
structure Same (v w : Vector3 Float32) : Prop where
  /-- The lateral coordinates. -/
  x : Single.Same v.x w.x
  /-- The forward coordinates. -/
  y : Single.Same v.y w.y
  /-- The heights. -/
  z : Single.Same v.z w.z

/-- The coordinates of the vectors are equal as numbers. -/
structure Equal (v w : Vector3 Float32) : Prop where
  /-- The lateral coordinates. -/
  x : (v.x == w.x) = true
  /-- The forward coordinates. -/
  y : (v.y == w.y) = true
  /-- The heights. -/
  z : (v.z == w.z) = true

variable {u v w : Vector3 Float32}

/-- Sameness of vectors is transitive. -/
theorem Same.trans (huv : Same u v) (hvw : Same v w) : Same u w :=
  ⟨huv.x.trans hvw.x, huv.y.trans hvw.y, huv.z.trans hvw.z⟩

/-- What is the same as a finite vector is finite. -/
theorem Same.isFinite (h : Same v w) (hw : Point.isFinite w = true) : Point.isFinite v = true := by
  rw [Point.isFinite_iff] at hw ⊢
  exact ⟨h.x.isFinite hw.1, h.y.isFinite hw.2.1, h.z.isFinite hw.2.2⟩

/-- Vectors that are the same compare equal if they are finite. -/
theorem Same.equal (h : Same v w) (hw : Point.isFinite w = true) : Equal v w := by
  rw [Point.isFinite_iff] at hw
  exact ⟨h.x.beq hw.1, h.y.beq hw.2.1, h.z.beq hw.2.2⟩

/-- **A blend with no weight is the vector it starts from.** -/
theorem same_lerp {weight : Float32} (hweight : IsZero weight) (hw : Point.isFinite w = true)
    (v : Vector3 Float32) : Same (v.lerp w weight) v := by
  rw [Point.isFinite_iff] at hw
  have hkept : ∀ a, Single.Same (a * (1 - weight)) a :=
    Single.same_mul_one (Single.unpack_one_sub hweight)
  exact ⟨(hkept v.x).add_zero (Single.isZero_mul_right hweight hw.1),
    (hkept v.y).add_zero (Single.isZero_mul_right hweight hw.2.1),
    (hkept v.z).add_zero (Single.isZero_mul_right hweight hw.2.2)⟩

/-- The vector displaced by nothing. -/
theorem Same.zero_add (h : Same v w) : Same (Vector3.zero.add v) w :=
  ⟨h.x.zero_add Single.isZero_zero, h.y.zero_add Single.isZero_zero,
    h.z.zero_add Single.isZero_zero⟩

end Vector3

/-! ## Rotations and poses -/

namespace Quaternion

/-- The quaternion has no real part, and the vector for the others. -/
structure IsVector (q : Quaternion Float32) (v : Vector3 Float32) : Prop where
  /-- There is no real part. -/
  w : IsZero q.w
  /-- The others are the coordinates of the vector. -/
  same : Vector3.Same ⟨q.x, q.y, q.z⟩ v

variable {v : Vector3 Float32} (hv : Point.isFinite v = true)

include hv

/-- The rotation that turns nothing, as a factor in front. -/
theorem isVector_identity_mul : IsVector (identity.mul (ofVector v)) v := by
  obtain ⟨hx, hy, hz⟩ := (Point.isFinite_iff v).1 hv
  have hone : ∀ a, Single.Same (1 * a) a := fun a => (Single.Same.refl a).one_mul
  have hnothing : ∀ {a : Float32}, a.isFinite = true → IsZero (0 * a) :=
    Single.isZero_mul_left Single.isZero_zero
  have hreal : IsZero (1 * 0) := (hone 0).isZero Single.isZero_zero
  have hreal' : IsZero (0 * 0) := hnothing Single.isZero_zero.isFinite
  exact {
    w := ((hreal.sub (hnothing hx)).sub (hnothing hy)).sub (hnothing hz)
    same := {
      x := (((hone v.x).add_zero hreal').add_zero (hnothing hz)).sub_zero (hnothing hy)
      y := (((hone v.y).sub_zero (hnothing hz)).add_zero hreal').add_zero (hnothing hx)
      z := (((hone v.z).add_zero (hnothing hy)).sub_zero (hnothing hx)).add_zero hreal' } }

/-- The rotation that turns nothing, as a factor behind. -/
theorem IsVector.mul_conjugate_identity {q : Quaternion Float32} (h : IsVector q v) :
    Vector3.Same ⟨(q.mul identity.conjugate).x, (q.mul identity.conjugate).y,
      (q.mul identity.conjugate).z⟩ v := by
  obtain ⟨hx, hy, hz⟩ := (Point.isFinite_iff _).1 (h.same.isFinite hv)
  have hnothing : ∀ {a : Float32}, a.isFinite = true → IsZero (a * -0) :=
    Single.isZero_mul_right Single.isZero_zero.neg
  have hreal := hnothing h.w.isFinite
  exact {
    x := ((h.same.x.mul_one.zero_add hreal).add_zero (hnothing hy)).sub_zero (hnothing hz)
    y := (h.same.y.mul_one.zero_add (hreal.sub (hnothing hx))).add_zero (hnothing hz)
    z := h.same.z.mul_one.zero_add ((hreal.add (hnothing hx)).sub (hnothing hy)) }

/-- **The rotation that turns nothing leaves a finite vector as it is.** -/
theorem same_rotate_identity : Vector3.Same (identity.rotate v) v :=
  (isVector_identity_mul hv).mul_conjugate_identity hv

end Quaternion

/-- **A pose in the frame itself is displaced as it is.** -/
theorem Pose.same_identity_compose {p : Pose Float32} (hp : Point.isFinite p.displacement = true) :
    Vector3.Same (Pose.identity.compose p).displacement p.displacement :=
  (Quaternion.same_rotate_identity hp).zero_add

end CollisionWatch
