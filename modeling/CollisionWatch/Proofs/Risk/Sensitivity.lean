import CollisionWatch.Proofs.Single
import CollisionWatch.Risk.Zone

/-!
# More sensitive thresholds

Thresholds are at least as sensitive as others if their region is at least as large, their band of
heights contains the other one, their body is at most as large, and they ask for at most as many
points and clouds (`Thresholds.AtLeastAsSensitive`). Then a point that is a danger by the others is
one by them (`AtLeastAsSensitive.qualifies`), although the filters are asked in a fixed order and
differ in what they do on their bounds. A cloud is risky exactly if it has enough dangerous points
(`Thresholds.isRisky_iff`), so the order of its points does not matter, and further points do no
harm (`AtLeastAsSensitive.isRisky`).
-/

namespace CollisionWatch

/-- One box lies within another. -/
structure Extents.Within (inner outer : Extents) : Prop where
  /-- It reaches at most as far forward. -/
  forward : inner.forward ≤ outer.forward
  /-- It reaches at most as far backward. -/
  backward : inner.backward ≤ outer.backward
  /-- It reaches at most as far to either side. -/
  side : inner.side ≤ outer.side

namespace Thresholds

/-- Whatever is a danger or a collision by other thresholds is one by these. -/
structure AtLeastAsSensitive (t other : Thresholds) : Prop where
  /-- The region is at least as large. -/
  region : other.region.Within t.region
  /-- The band of heights reaches at least as low. -/
  heightMin : t.heightMin ≤ other.heightMin
  /-- The band of heights reaches at least as high. -/
  heightMax : other.heightMax ≤ t.heightMax
  /-- The body is at most as large. -/
  body : t.body.Within other.body
  /-- At most as many dangerous points make a risky cloud. -/
  minPoints : t.minPoints ≤ other.minPoints
  /-- At most as many risky clouds make a collision. -/
  minFrames : t.minFrames ≤ other.minFrames

/-! ## Points -/

/-- A point qualifies if no filter rejects it. -/
theorem zone_eq_qualifying_iff (t : Thresholds) (p : Point) :
    t.zone p = .qualifying ↔ p.isFinite = true ∧
      ¬ (p.y < t.body.forward ∧ -t.body.backward < p.y ∧ p.x.abs < t.body.side) ∧
      ¬ (p.z < t.heightMin ∨ t.heightMax < p.z) ∧
      ¬ (t.region.forward < p.y ∨ p.y < -t.region.backward ∨ t.region.side < p.x.abs) := by
  unfold zone
  cases p.isFinite
  · simp
  · simp only [Bool.not_true, Bool.false_eq_true, if_false, true_and]
    split_ifs <;> simp [*]

section

variable {t other : Thresholds}

/-- **A danger by less sensitive thresholds is a danger.** -/
theorem AtLeastAsSensitive.zone (h : t.AtLeastAsSensitive other) {p : Point}
    (hp : other.zone p = .qualifying) : t.zone p = .qualifying := by
  rw [zone_eq_qualifying_iff] at hp ⊢
  obtain ⟨hfinite, hbody, hheights, hregion⟩ := hp
  refine ⟨hfinite, ?_, ?_, ?_⟩
  · rintro ⟨hforward, hbackward, hside⟩
    refine hbody ⟨?_, ?_, ?_⟩
    · exact Single.lt_of_lt_of_le hforward h.body.forward
    · exact Single.lt_of_le_of_lt (Single.neg_le_neg h.body.backward) hbackward
    · exact Single.lt_of_lt_of_le hside h.body.side
  · rintro (hlow | hhigh)
    · exact hheights (.inl (Single.lt_of_lt_of_le hlow h.heightMin))
    · exact hheights (.inr (Single.lt_of_le_of_lt h.heightMax hhigh))
  · rintro (hforward | hbackward | hside)
    · exact hregion (.inl (Single.lt_of_le_of_lt h.region.forward hforward))
    · refine hregion (.inr (.inl ?_))
      exact Single.lt_of_lt_of_le hbackward (Single.neg_le_neg h.region.backward)
    · exact hregion (.inr (.inr (Single.lt_of_le_of_lt h.region.side hside)))

/-- What qualifies for some thresholds qualifies for more sensitive ones. -/
theorem AtLeastAsSensitive.qualifies (h : t.AtLeastAsSensitive other) {pose : Pose Float32}
    {p : Point} (hp : other.qualifies pose p = true) : t.qualifies pose p = true := by
  unfold Thresholds.qualifies at hp ⊢
  simp only [Bool.and_eq_true, beq_iff_eq] at hp ⊢
  exact ⟨hp.1, h.zone hp.2⟩

end

/-! ## Clouds -/

/-- Looking stops at the last point that is needed, which is there if there are enough. -/
theorem isRiskyAfter_iff (t : Thresholds) (pose : Pose Float32) {found : UInt32}
    (hfound : found < t.minPoints) (points : List Point) :
    t.isRiskyAfter pose found points = true ↔
      t.minPoints.toNat ≤ found.toNat + points.countP (t.qualifies pose) := by
  induction points generalizing found with
  | nil =>
    rw [UInt32.lt_iff_toNat_lt] at hfound
    simpa [isRiskyAfter] using hfound
  | cons p rest ih =>
    rw [isRiskyAfter, List.countP_cons]
    by_cases hp : t.qualifies pose p = true
    · rw [if_pos hp, if_pos hp]
      -- the count has not reached a number in the word, so one more does not overflow
      have hnext : (found + 1).toNat = found.toNat + 1 := by
        rw [UInt32.lt_iff_toNat_lt] at hfound
        have hmost := t.minPoints.toNat_lt
        rw [UInt32.toNat_add]
        exact Nat.mod_eq_of_lt (by change found.toNat + 1 < 2 ^ 32; omega)
      by_cases henough : t.minPoints ≤ found + 1
      · rw [if_pos henough]
        rw [UInt32.le_iff_toNat_le, hnext] at henough
        simp only [true_iff]
        omega
      · rw [if_neg henough, ih (UInt32.not_le.1 henough), hnext]
        omega
    · rw [if_neg hp, if_neg hp, ih hfound]
      rfl

/-- **A cloud is risky exactly if it has enough dangerous points.** -/
theorem isRisky_iff (t : Thresholds) (hpoints : t.minPoints ≠ 0) (cloud : Cloud)
    (pose : Pose Float32) :
    t.isRisky cloud pose = true ↔ t.minPoints.toNat ≤ t.countQualifying cloud pose := by
  have hpos : 0 < t.minPoints := UInt32.pos_iff_ne_zero.2 hpoints
  rw [isRisky, isRiskyAfter_iff t pose hpos, countQualifying]
  simp

/-- **A cloud that is risky by less sensitive thresholds, or with fewer points, is risky.** -/
theorem AtLeastAsSensitive.isRisky {t other : Thresholds} (h : t.AtLeastAsSensitive other)
    (hpoints : t.minPoints ≠ 0) (hother : other.minPoints ≠ 0) {cloud denser : Cloud}
    (hcloud : cloud.points.Subperm denser.points) {pose : Pose Float32}
    (hrisky : other.isRisky cloud pose = true) : t.isRisky denser pose = true := by
  rw [isRisky_iff _ hother] at hrisky
  rw [isRisky_iff _ hpoints]
  calc t.minPoints.toNat
      ≤ other.minPoints.toNat := h.minPoints
    _ ≤ cloud.points.countP (other.qualifies pose) := hrisky
    _ ≤ cloud.points.countP (t.qualifies pose) :=
        List.countP_mono_left fun _ _ hp => h.qualifies hp
    _ ≤ denser.points.countP (t.qualifies pose) := hcloud.countP_le _

end Thresholds

end CollisionWatch
