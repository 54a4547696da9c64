import CollisionWatch.Proofs.Risk.Sensitivity
import CollisionWatch.Proofs.Risk.Thresholds

/-!
# The region of danger

Where a point is a danger can be said without filters: at a height within the band, in the region to
protect or on its surface, and not within the vehicle (`Thresholds.InDanger`). The filters reject by
comparisons that hold, and a comparison with what is no number never does; so they agree with the
region only as long as both the thresholds and the point are numbers, which the checks of both make
sure of (`zone_eq_qualifying_iff_inDanger`).

Two looks at a cloud count such points: one to the end, and one that stops at the last point it
needs. They agree (`isRisky_iff_enough_inDanger`). The second one counts in a word, and since it
stops before the number in the thresholds is passed, the word is never full (`scan?_eq_some`).
-/

namespace CollisionWatch

/-- The point lies within the box or on its surface. -/
def Extents.Covers (box : Extents) (p : Point) : Prop :=
  -box.backward ≤ p.y ∧ p.y ≤ box.forward ∧ p.x.abs ≤ box.side

/-- The point lies within the box. -/
def Extents.Encloses (box : Extents) (p : Point) : Prop :=
  -box.backward < p.y ∧ p.y < box.forward ∧ p.x.abs < box.side

/-- Whether a box covers a point is a comparison of coordinates. -/
instance (box : Extents) (p : Point) : Decidable (box.Covers p) :=
  inferInstanceAs (Decidable (_ ∧ _ ∧ _))

/-- Whether a box encloses a point can be decided. -/
instance (box : Extents) (p : Point) : Decidable (box.Encloses p) :=
  inferInstanceAs (Decidable (_ ∧ _ ∧ _))

namespace Thresholds

/-- A point of the vehicle's frame lies at a dangerous height, in the region to protect and not
within the vehicle. -/
def InDanger (t : Thresholds) (p : Point) : Prop :=
  p.isFinite = true ∧ (t.heightMin ≤ p.z ∧ p.z ≤ t.heightMax) ∧ t.region.Covers p ∧
    ¬ t.body.Encloses p

/-- A point of a sensor's frame is finite, and lies where it is a danger. -/
def IsDanger (t : Thresholds) (pose : Pose Float32) (p : Point) : Prop :=
  p.isFinite = true ∧ t.InDanger (pose.apply p)

/-- Whether a point is in danger can be decided. -/
instance (t : Thresholds) (p : Point) : Decidable (t.InDanger p) :=
  inferInstanceAs (Decidable (_ ∧ _ ∧ _ ∧ _))

/-- Whether a point is in danger after it was moved can be decided. -/
instance (t : Thresholds) (pose : Pose Float32) (p : Point) : Decidable (t.IsDanger pose p) :=
  inferInstanceAs (Decidable (_ ∧ _))

/-! ## Points -/

/-- No point is beyond a surface exactly if the box covers it. -/
theorem not_beyond_iff_covers {box : Extents} (hbox : box.IsMeasured) {p : Point}
    (hp : p.isFinite = true) :
    ¬ (box.forward < p.y ∨ p.y < -box.backward ∨ box.side < p.x.abs) ↔ box.Covers p := by
  obtain ⟨hx, hy, -⟩ := (Point.isFinite_iff p).1 hp
  have hforward := Single.isNaN_of_isFinite (isFinite_of_isDistance hbox.forward)
  have hbackward := Single.isNaN_of_isFinite (isFinite_of_isDistance hbox.backward)
  have hside := Single.isNaN_of_isFinite (isFinite_of_isDistance hbox.side)
  rw [← Single.isNaN_neg] at hbackward
  replace hx := Single.isNaN_of_isFinite hx
  rw [← Single.isNaN_abs] at hx
  replace hy := Single.isNaN_of_isFinite hy
  unfold Extents.Covers
  rw [not_or, not_or, Single.not_lt_iff hforward hy, Single.not_lt_iff hy hbackward,
    Single.not_lt_iff hside hx]
  exact and_left_comm

/-- **The filters let exactly those points pass that lie in the region of danger.** -/
theorem zone_eq_qualifying_iff_inDanger {t : Thresholds} (h : t.IsSound) (p : Point) :
    t.zone p = .qualifying ↔ t.InDanger p := by
  rw [zone_eq_qualifying_iff]
  refine and_congr_right fun hp => ?_
  have hz := Single.isNaN_of_isFinite ((Point.isFinite_iff p).1 hp).2.2
  have hlow := Single.isNaN_of_isFinite h.heightMin
  have hhigh := Single.isNaN_of_isFinite h.heightMax
  have hheights : ¬ (p.z < t.heightMin ∨ t.heightMax < p.z) ↔
      t.heightMin ≤ p.z ∧ p.z ≤ t.heightMax := by
    rw [not_or, Single.not_lt_iff hz hlow, Single.not_lt_iff hhigh hz]
  have hbody : (p.y < t.body.forward ∧ -t.body.backward < p.y ∧ p.x.abs < t.body.side) ↔
      t.body.Encloses p := and_left_comm
  rw [hheights, hbody, not_beyond_iff_covers h.region hp]
  tauto

/-- With sound thresholds a point qualifies if and only if it is a danger. -/
theorem qualifies_iff_isDanger {t : Thresholds} (h : t.IsSound) (pose : Pose Float32) (p : Point) :
    t.qualifies pose p = true ↔ t.IsDanger pose p := by
  unfold qualifies IsDanger
  rw [Bool.and_eq_true, beq_iff_eq, zone_eq_qualifying_iff_inDanger h]

/-! ## Clouds -/

/-- The full count is that of the points in danger. -/
theorem countQualifying_eq_countP {t : Thresholds} (h : t.IsSound) (cloud : Cloud)
    (pose : Pose Float32) :
    t.countQualifying cloud pose = cloud.points.countP fun p => t.IsDanger pose p := by
  unfold countQualifying
  refine List.countP_congr fun p _ => ?_
  rw [qualifies_iff_isDanger h, decide_eq_true_iff]

/-- The look that stops at the last point it needs, with a counter that gives out when one more
point is found than its word can count. -/
def scan? (t : Thresholds) (pose : Pose Float32) (found : UInt32) : List Point → Option Bool
  | [] => some false
  | p :: rest =>
    if t.qualifies pose p then
      if found.toNat + 1 < UInt32.size then
        if t.minPoints ≤ found + 1 then some true else scan? t pose (found + 1) rest
      else none
    else scan? t pose found rest

/-- **The counter never gives out**: what was found is always fewer than what is needed. -/
theorem scan?_eq_some (t : Thresholds) (pose : Pose Float32) {found : UInt32}
    (hfound : found < t.minPoints) (points : List Point) :
    t.scan? pose found points = some (t.isRiskyAfter pose found points) := by
  induction points generalizing found with
  | nil => rfl
  | cons p rest ih =>
    unfold scan? isRiskyAfter
    by_cases hp : t.qualifies pose p = true
    · have hroom : found.toNat + 1 < UInt32.size := by
        rw [UInt32.lt_iff_toNat_lt] at hfound
        exact Nat.lt_of_le_of_lt hfound t.minPoints.toNat_lt
      rw [if_pos hp, if_pos hp, if_pos hroom]
      by_cases henough : t.minPoints ≤ found + 1
      · rw [if_pos henough, if_pos henough]
      · rw [if_neg henough, if_neg henough, ih (UInt32.not_le.1 henough)]
    · rw [if_neg hp, if_neg hp, ih hfound]

/-- **A cloud is risky exactly if enough of its points lie in the region of danger**, as the full
count has it; neither their order nor any other point matters, and the counter never gives out. -/
theorem isRisky_iff_enough_inDanger {t : Thresholds} (h : t.validate = .ok ()) (cloud : Cloud)
    (pose : Pose Float32) :
    (t.isRisky cloud pose = true ↔ t.minPoints.toNat ≤ t.countQualifying cloud pose) ∧
      t.countQualifying cloud pose = cloud.points.countP (fun p => t.IsDanger pose p) ∧
      (∀ other : Cloud,
        (other.points.filter fun p => t.IsDanger pose p).Perm
          (cloud.points.filter fun p => t.IsDanger pose p) →
        t.isRisky other pose = t.isRisky cloud pose) ∧
      t.scan? pose 0 cloud.points = some (t.isRisky cloud pose) := by
  have hsound := (validate_eq_ok_iff t).1 h
  have hiff := t.isRisky_iff hsound.minPoints
  have hcount := countQualifying_eq_countP hsound
  refine ⟨hiff cloud pose, hcount cloud pose, ?_, ?_⟩
  · intro other hperm
    have hsame : t.countQualifying other pose = t.countQualifying cloud pose := by
      rw [hcount, hcount, List.countP_eq_length_filter, List.countP_eq_length_filter]
      exact hperm.length_eq
    rw [Bool.eq_iff_iff, hiff, hiff, hsame]
  · apply scan?_eq_some
    exact UInt32.pos_iff_ne_zero.2 hsound.minPoints

/-- Five points in danger among noise, the ground, the vehicle itself and what is far away. -/
def clutter : Cloud :=
  ⟨"lidar", 0, [⟨0, 5, 0⟩, ⟨0 / 0, 5, 0⟩, ⟨0, 0, 0⟩, ⟨2.5, -1.5, 1.5⟩, ⟨0, 20, 0⟩, ⟨-2.5, 9.5, 0⟩,
    ⟨0, 5, -1⟩, ⟨0, 1 / 0, 0⟩, ⟨1.5, 1.5, 0⟩, ⟨-1.5, -2, 0⟩]⟩

/-- Seen from a sensor a metre above the vehicle, it is risky. -/
theorem isRisky_clutter :
    ({} : Thresholds).validate = .ok () ∧
      ({} : Thresholds).countQualifying clutter ⟨⟨0, 0, 1⟩, .identity⟩ = 5 ∧
      ({} : Thresholds).isRisky clutter ⟨⟨0, 0, 1⟩, .identity⟩ = true ∧
      ({} : Thresholds).scan? ⟨⟨0, 0, 1⟩, .identity⟩ 0 clutter.points = some true := by
  have hvalidate : ({} : Thresholds).validate = .ok () := rfl
  obtain ⟨hiff, hcount, -, hscan⟩ :=
    isRisky_iff_enough_inDanger hvalidate clutter ⟨⟨0, 0, 1⟩, .identity⟩
  have hfive : ({} : Thresholds).countQualifying clutter ⟨⟨0, 0, 1⟩, .identity⟩ = 5 := by
    rw [hcount]
    decide +kernel
  have hrisky := hiff.2 (by rw [hfive]; decide)
  rw [hrisky] at hscan
  exact ⟨hvalidate, hfive, hrisky, hscan⟩

end Thresholds

end CollisionWatch
