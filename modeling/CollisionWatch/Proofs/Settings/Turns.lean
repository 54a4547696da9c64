import CollisionWatch.Proofs.Exactness
import CollisionWatch.Proofs.Geometry.Norm
import CollisionWatch.Proofs.Settings.Mounts

/-!
# The turns of mounts

A mount is turned by the rotation that was configured, scaled to norm one, unless the norm cannot be
divided by; then it is not turned at all. Settings without a defect may have such a norm: their
numbers are finite, but the norm is computed from squares. Main statement: of a rotation by at least
a right angle nothing is lost if the norm is usable, and everything if it is not (`turned`); the
first is so for parts between `2 ^ -22` and `2 ^ 62`, and the second for parts of at most `2 ^ -24`,
or one of at least `2 ^ 64`.
-/

namespace CollisionWatch

open Single (IsZero magnitude power)

/-- The quaternion turns by at least a right angle, once it is scaled: some part of its vector is at
least as large as the real part. -/
def Quaternion.TurnsFar (q : Quaternion Float32) : Prop :=
  q.w.abs ≤ q.x.abs ∨ q.w.abs ≤ q.y.abs ∨ q.w.abs ≤ q.z.abs

/-- Whether a rotation turns far is a comparison of its parts. -/
instance (q : Quaternion Float32) : Decidable q.TurnsFar :=
  inferInstanceAs (Decidable (q.w.abs ≤ q.x.abs ∨ q.w.abs ≤ q.y.abs ∨ q.w.abs ≤ q.z.abs))

/-- The vector of the quaternion is zero. -/
def Quaternion.IsReal (q : Quaternion Float32) : Prop := IsZero q.x ∧ IsZero q.y ∧ IsZero q.z

namespace Mount

/-- What becomes of the rotation of a mount. -/
structure Turned (m : Mount) : Prop where
  /-- It is dropped if and only if its norm, as it is computed, cannot be divided by. -/
  dropped_iff : m.pose.rotation = .identity ↔
    m.rotation.norm ≤ singleEpsilon ∨ m.rotation.norm.isFinite = false
  /-- Otherwise it is divided by its norm, -/
  scaled : m.pose.rotation ≠ .identity → m.pose.rotation =
    ⟨m.rotation.w / m.rotation.norm, m.rotation.x / m.rotation.norm,
      m.rotation.y / m.rotation.norm, m.rotation.z / m.rotation.norm⟩
  /-- and it still turns. -/
  turns : m.pose.rotation ≠ .identity → ¬ m.pose.rotation.IsReal
  /-- It is not dropped if its largest part has a middling size. -/
  kept : (∃ p ∈ m.rotation.parts, power (-22) ≤ p.abs) →
    (∀ p ∈ m.rotation.parts, p.abs ≤ power 62) → m.pose.rotation ≠ .identity
  /-- It is dropped if all parts are small, -/
  dropped_of_small : (∀ p ∈ m.rotation.parts, p.abs ≤ power (-24)) → m.pose.rotation = .identity
  /-- or if one part is large. -/
  dropped_of_large : (∃ p ∈ m.rotation.parts, power 64 ≤ p.abs) → m.pose.rotation = .identity

end Mount

/-! ## Scaling -/

namespace Quaternion

variable {q : Quaternion Float32}

/-- Scaling divides by the norm if that can be divided by. -/
theorem normalized_of_usable (h : RootScalar.usable q.norm = true) :
    q.normalized = ⟨q.w / q.norm, q.x / q.norm, q.y / q.norm, q.z / q.norm⟩ := if_pos h

/-- The identity takes the place of a quaternion whose norm cannot be divided by. -/
theorem normalized_of_not_usable (h : RootScalar.usable q.norm = false) :
    q.normalized = .identity := if_neg (by rw [h]; exact Bool.false_ne_true)

/-- A norm cannot be divided by if it is next to nothing, or not finite. -/
theorem usable_eq_false_iff (norm : Float32) :
    RootScalar.usable norm = false ↔ norm ≤ singleEpsilon ∨ norm.isFinite = false := by
  change (!decide (norm ≤ singleEpsilon) && norm.isFinite) = false ↔ _
  rw [Bool.and_eq_false_iff, Bool.not_eq_false', decide_eq_true_iff]

/-- The identity has no vector part. -/
theorem isReal_identity : (identity : Quaternion Float32).IsReal :=
  ⟨Single.isZero_zero, Single.isZero_zero, Single.isZero_zero⟩

/-- A quaternion that turns far has its largest part in its vector. -/
theorem TurnsFar.exists_largest (h : q.TurnsFar) (hq : ∀ p ∈ q.parts, p.isFinite = true) :
    ∃ p ∈ [q.x, q.y, q.z], ∀ r ∈ q.parts, magnitude r ≤ magnitude p := by
  obtain ⟨p, hp, hlargest⟩ := Finset.exists_max_image [q.x, q.y, q.z].toFinset magnitude
    ⟨q.x, by simp⟩
  simp only [List.mem_toFinset] at hp hlargest
  have hreal : ∀ r ∈ [q.x, q.y, q.z], q.w.abs ≤ r.abs → magnitude q.w ≤ magnitude p := by
    intro r hr hle
    have hparts : ∀ {r}, r ∈ q.parts → Single.IsSigned .positive r.abs.toModel.unpack :=
      fun hr => Single.isSigned_abs (Single.isNaN_of_isFinite (hq _ hr))
    rw [Single.le_iff_magnitude_le (hparts List.mem_cons_self)
      (hparts (List.mem_cons_of_mem _ hr)), Single.magnitude_abs, Single.magnitude_abs] at hle
    exact hle.trans (hlargest r hr)
  refine ⟨p, hp, List.forall_mem_cons.2 ⟨?_, hlargest⟩⟩
  rcases h with h | h | h
  · exact hreal q.x (by simp) h
  · exact hreal q.y (by simp) h
  · exact hreal q.z (by simp) h

/-- **Scaled to norm one, a quaternion that turns far still turns.** -/
theorem TurnsFar.not_isReal_normalized (h : q.TurnsFar)
    (hq : ∀ p ∈ q.parts, p.isFinite = true) (husable : RootScalar.usable q.norm = true) :
    ¬ q.normalized.IsReal := by
  obtain ⟨p, hp, hlargest⟩ := h.exists_largest hq
  have hquarter := quarter_le_magnitude_div_norm hq husable (List.mem_cons_of_mem _ hp) hlargest
  have hsome : ¬ IsZero (p / q.norm) := by
    rintro ⟨sign, hzero⟩
    rw [Single.magnitude_of_zero hzero] at hquarter
    exact hquarter.not_gt (zpow_pos two_pos _)
  rw [normalized_of_usable husable]
  rintro ⟨hx, hy, hz⟩
  simp only [List.mem_cons, List.not_mem_nil, or_false] at hp
  rcases hp with rfl | rfl | rfl
  · exact hsome hx
  · exact hsome hy
  · exact hsome hz

end Quaternion

/-! ## Mounts that are accepted -/

namespace Settings

variable {s : Settings} {m : Mount}

/-- The numbers of a mount of settings without a defect are finite. -/
theorem isFinite_rotation (h : s.defect? = none) (hm : m ∈ s.mounts) :
    ∀ p ∈ m.rotation.parts, p.isFinite = true := by
  obtain ⟨-, hfinite⟩ := (mountDefect?_eq_none_iff m).1 (mountDefect?_eq_none h hm)
  exact List.all_eq_true.1 (Bool.and_eq_true_iff.1 hfinite).2

/-- **A rotation by at least a right angle is dropped only if its norm cannot be divided by.** -/
theorem turned (h : s.defect? = none) (hm : m ∈ s.mounts) (hfar : m.rotation.TurnsFar) :
    m.Turned := by
  have hq := isFinite_rotation h hm
  have hnumber : ∀ {p}, p ∈ m.rotation.parts → p.isNaN = false :=
    fun hp => Single.isNaN_of_isFinite (hq _ hp)
  -- Divided by its norm a rotation that turns far is not real, as the identity is.
  have hidentity : m.pose.rotation = .identity ↔ RootScalar.usable m.rotation.norm = false := by
    refine ⟨fun heq => ?_, Quaternion.normalized_of_not_usable⟩
    rw [← Bool.not_eq_true]
    intro husable
    refine hfar.not_isReal_normalized hq husable ?_
    rw [show m.rotation.normalized = .identity from heq]
    exact Quaternion.isReal_identity
  have husable : m.pose.rotation ≠ .identity → RootScalar.usable m.rotation.norm = true := by
    rw [ne_eq, hidentity, Bool.not_eq_false]
    exact id
  exact {
    dropped_iff := hidentity.trans (Quaternion.usable_eq_false_iff _)
    scaled := fun hne => Quaternion.normalized_of_usable (husable hne)
    turns := fun hne => hfar.not_isReal_normalized hq (husable hne)
    kept := by
      rintro ⟨p, hp, hlarge⟩ hsmall
      rw [ne_eq, hidentity, Bool.not_eq_false]
      refine Quaternion.usable_norm hq (fun r hr => ?_) hp ?_
      · exact (Single.abs_le_power_iff (hnumber hr) (by norm_num) (by norm_num)).1 (hsmall r hr)
      · exact (Single.power_le_abs_iff (hnumber hp) (by norm_num) (by norm_num)).1 hlarge
    dropped_of_small := fun hsmall => hidentity.2 <|
      Quaternion.not_usable_norm_of_small hq fun r hr =>
        (Single.abs_le_power_iff (hnumber hr) (by norm_num) (by norm_num)).1 (hsmall r hr)
    dropped_of_large := by
      rintro ⟨p, hp, hlarge⟩
      refine hidentity.2 (Quaternion.not_usable_norm_of_large hq hp ?_)
      exact (Single.power_le_abs_iff (hnumber hp) (by norm_num) (by norm_num)).1 hlarge }

/-- A sensor that looks backwards: a half turn of length `2 ^ k`. -/
def backwardMount (k : Int) : Mount := ⟨"novatel", "rear", .zero, ⟨0, 0, 0, power k⟩⟩

/-- The standard settings with this one mount. -/
def backward (k : Int) : Settings := { mounts := [backwardMount k] }

/-- One is a middling size. -/
theorem turned_backward :
    (backward 0).defect? = none ∧ backwardMount 0 ∈ (backward 0).mounts ∧
      (backwardMount 0).rotation.TurnsFar ∧ (backwardMount 0).Turned ∧
      (backwardMount 0).pose.rotation ≠ .identity := by
  have haccepted : (backward 0).defect? = none := by decide +kernel
  have hmember : backwardMount 0 ∈ (backward 0).mounts := List.mem_singleton_self _
  have hfar : (backwardMount 0).rotation.TurnsFar := by decide +kernel
  have hturned := turned haccepted hmember hfar
  exact ⟨haccepted, hmember, hfar, hturned, hturned.kept (by decide +kernel) (by decide +kernel)⟩

/-- **A rotation that is accepted may be dropped**: a half turn of length `2 ^ -24` is. -/
theorem not_always_turned :
    ¬ ∀ s : Settings, s.defect? = none → ∀ m ∈ s.mounts, (∃ p ∈ m.rotation.parts, ¬ IsZero p) →
      m.rotation.TurnsFar → m.pose.rotation ≠ .identity := by
  intro hclaim
  have hsome : ¬ IsZero (power (-24)) := by
    rintro ⟨sign, hzero⟩
    cases hzero
  exact hclaim (backward (-24)) (by decide +kernel) (backwardMount (-24))
    (List.mem_singleton_self _) ⟨power (-24), by simp [Quaternion.parts, backwardMount], hsome⟩
    (by decide +kernel) (by decide +kernel)

end Settings

end CollisionWatch
