import CollisionWatch.Risk.Thresholds

/-!
# Thresholds that pass

The checks of thresholds stop at the first defect. Thresholds without any are those that pass
(`Thresholds.validate_eq_ok_iff`): every extent is a distance, every bound is finite, the heights
and the sides leave room, and at least one point and one cloud are asked for. All that is said
elsewhere about accepted thresholds begins here.
-/

namespace CollisionWatch

open Thresholds (isDistance)

/-- All extents of a box are distances. -/
structure Extents.IsMeasured (box : Extents) : Prop where
  forward : isDistance box.forward = true
  backward : isDistance box.backward = true
  side : isDistance box.side = true

namespace Thresholds

/-- The thresholds mean something. -/
structure IsSound (t : Thresholds) : Prop where
  /-- The body of the vehicle is measured. -/
  body : t.body.IsMeasured
  /-- So is the region around it. -/
  region : t.region.IsMeasured
  /-- The lower height is finite. -/
  heightMin : t.heightMin.isFinite = true
  /-- So is the upper one. -/
  heightMax : t.heightMax.isFinite = true
  /-- There is room between the heights. -/
  heights : ¬ t.heightMax ≤ t.heightMin
  /-- There is room on either side of the vehicle. -/
  margin : ¬ t.region.side ≤ t.body.side
  /-- No cloud is risky without a point. -/
  minPoints : t.minPoints ≠ 0
  /-- No streak is long enough without a cloud. -/
  minFrames : t.minFrames ≠ 0

/-- A distance is finite. -/
theorem isFinite_of_isDistance {x : Float32} (h : isDistance x = true) : x.isFinite = true := by
  unfold isDistance at h
  rw [Bool.and_eq_true] at h
  exact h.1

/-! ## The checks -/

/-- Checks find nothing if the first one does not and the others do not. -/
theorem ite_some_eq_none_iff {α : Type} {c : Prop} [Decidable c] {defect : α} {rest : Option α} :
    (if c then some defect else rest) = none ↔ ¬ c ∧ rest = none := by
  by_cases h : c <;> simp [h]

/-- A box has no defect if all that is measured of it is a distance. -/
theorem boxDefect?_eq_none_iff (name : String) (box : Extents) :
    boxDefect? name box = none ↔ box.IsMeasured := by
  unfold boxDefect?
  simp only [ite_some_eq_none_iff, Bool.not_eq_true, Bool.not_eq_false', and_true]
  constructor
  · rintro ⟨hforward, hbackward, hside⟩
    exact ⟨hforward, hbackward, hside⟩
  · intro h
    exact ⟨h.forward, h.backward, h.side⟩

/-- **Thresholds pass exactly if they mean something.** -/
theorem validate_eq_ok_iff (t : Thresholds) : t.validate = .ok () ↔ t.IsSound := by
  have hdefect : t.validate = .ok () ↔ t.defect? = none := by
    unfold validate
    cases t.defect? with
    | none => simp
    | some defect => simp
  rw [hdefect]
  unfold defect? boundsDefect? countsDefect?
  simp only [Option.or_eq_none_iff, boxDefect?_eq_none_iff, ite_some_eq_none_iff, Bool.or_eq_true,
    Bool.not_eq_true', not_or, Bool.not_eq_false, and_true]
  constructor
  · rintro ⟨hbody, hregion, ⟨⟨hlow, hhigh⟩, hheights, hmargin⟩, hpoints, hframes⟩
    exact ⟨hbody, hregion, hlow, hhigh, hheights, hmargin, hpoints, hframes⟩
  · intro h
    exact ⟨h.body, h.region, ⟨⟨h.heightMin, h.heightMax⟩, h.heights, h.margin⟩, h.minPoints,
      h.minFrames⟩

end Thresholds

end CollisionWatch
