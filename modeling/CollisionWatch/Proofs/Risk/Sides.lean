import CollisionWatch.Proofs.Exactness
import CollisionWatch.Proofs.Risk.Region

/-!
# The sides of the region

Thresholds that pass leave room for danger. The vehicle is narrower than the region around it, so a
point on either side of the region is never within the vehicle, whatever the other extents are; and
neither the span of the region, which has the origin in it, nor the band of heights is empty. So all
of both sides is in danger (`IsSound.inDanger_of_spans`), and there is something to it
(`IsSound.spans_low`). Main statement: this is so for all thresholds that pass, and what has a
bound that is not finite, or no point in danger, does not pass (`validate_guards_sides`).
-/

namespace CollisionWatch

namespace Single

variable {s x y : Float32}

/-- Floats that are the same up to the sign of a zero have the same magnitude. -/
theorem Same.unpack_abs (h : Same x y) : x.abs.toModel.unpack = y.abs.toModel.unpack := by
  rw [Single.unpack_abs, Single.unpack_abs]
  rcases h with heq | ⟨⟨sign, hx⟩, ⟨sign', hy⟩⟩
  · rw [heq]
  · rw [hx, hy]
    rfl

/-- Floats that are the same up to the sign of a zero are at most each other. -/
theorem Same.le_and_le (h : Same x y) (hy : y.isNaN = false) : x ≤ y ∧ y ≤ x := by
  rw [le_iff, le_iff]
  rcases h with heq | ⟨⟨sign, hx⟩, ⟨sign', hy'⟩⟩
  · rw [heq, and_self, Double.unpacked_le_iff hy hy]
  · rw [hx, hy']
    exact ⟨rfl, rfl⟩

/-- A sign is one or minus one. -/
def IsSign (s : Float32) : Prop := s = 1 ∨ s = -1

/-- A product with a sign is the other factor or its negation. -/
theorem IsSign.same_mul (hs : IsSign s) (x : Float32) : Same (s * x) x ∨ Same (s * x) (-x) := by
  rw [mul_comm]
  rcases hs with rfl | rfl
  · exact .inl (same_mul_one rfl x)
  · exact .inr (same_mul_neg_one x)

/-- A sign leaves a magnitude as it is. -/
theorem IsSign.unpack_abs_mul (hs : IsSign s) (x : Float32) :
    (s * x).abs.toModel.unpack = x.abs.toModel.unpack := by
  rcases hs.same_mul x with h | h
  · exact h.unpack_abs
  · rw [h.unpack_abs, Single.unpack_abs, Single.unpack_abs, unpack_neg]
    cases x.toModel.unpack <;> rfl

/-- The sign has no part in being finite. -/
theorem isFinite_neg (h : x.isFinite = true) : (-x).isFinite = true := by
  change (-x).toModel.unpack.isFinite = true
  change x.toModel.unpack.isFinite = true at h
  rw [unpack_neg]
  cases hx : x.toModel.unpack <;> rw [hx] at h <;> first | rfl | cases h

/-- A sign times a finite single is finite. -/
theorem IsSign.isFinite_mul (hs : IsSign s) (h : x.isFinite = true) : (s * x).isFinite = true := by
  rcases hs.same_mul x with hsame | hsame
  · exact hsame.isFinite h
  · exact hsame.isFinite (isFinite_neg h)

/-- What is not below zero is its own magnitude, up to the sign of a zero. -/
theorem same_abs (h : 0 ≤ x) : Same x.abs x := by
  have hzero : (0 : Float32).toModel.unpack = .zero .positive := rfl
  rw [le_iff, hzero] at h
  unfold Same
  rw [Single.unpack_abs]
  generalize x.toModel.unpack = a at h
  rcases a with ⟨_ | _⟩ | _ | sign | ⟨_ | _, m, e, _⟩
  · cases h
  · exact .inl rfl
  · exact .inl rfl
  · exact .inr ⟨⟨_, rfl⟩, ⟨_, rfl⟩⟩
  · cases h
  · exact .inl rfl

/-- With any sign it is as far from zero as it is without. -/
theorem IsSign.abs_mul (hs : IsSign s) (h : 0 ≤ x) : (s * x).abs ≤ x ∧ x ≤ (s * x).abs := by
  have hsame : Same (s * x).abs x := by
    unfold Same
    rw [hs.unpack_abs_mul]
    exact same_abs h
  exact hsame.le_and_le (Double.isNaN_of_le ((le_iff 0 x).1 h)).2

/-- A distance is not below zero. -/
theorem nonneg_of_isDistance (h : Thresholds.isDistance x = true) : 0 ≤ x := by
  have hfinite := Thresholds.isFinite_of_isDistance h
  unfold Thresholds.isDistance at h
  rw [hfinite, Bool.true_and, Bool.not_eq_true', decide_eq_false_iff_not] at h
  exact (not_lt_iff (isNaN_of_isFinite hfinite) rfl).1 h

end Single

open Single (IsSign)

namespace Thresholds

/-- The forward coordinate lies in the span of the region, and the height in the band. -/
def Spans (t : Thresholds) (y z : Float32) : Prop :=
  (-t.region.backward ≤ y ∧ y ≤ t.region.forward) ∧ t.heightMin ≤ z ∧ z ≤ t.heightMax

/-- The bounds between which points are dangerous. -/
def bounds (t : Thresholds) : List Float32 :=
  [t.body.forward, t.body.backward, t.body.side, t.region.forward, t.region.backward,
    t.region.side, t.heightMin, t.heightMax]

/-- The thresholds do not pass, and the fault tells their defect. -/
def IsRejected (t : Thresholds) : Prop :=
  ∃ defect, t.defect? = some defect ∧ t.validate = .error (.invalidConfiguration defect.message)

/-- Thresholds pass or are rejected. -/
theorem validate_cases (t : Thresholds) : t.validate = .ok () ∨ t.IsRejected := by
  unfold IsRejected validate
  cases t.defect? with
  | none => exact .inl rfl
  | some defect => exact .inr ⟨defect, rfl, rfl⟩

section

variable {t : Thresholds} (h : t.IsSound)

include h

/-- The bounds of thresholds that mean something are finite. -/
theorem IsSound.isFinite_bounds : ∀ bound ∈ t.bounds, bound.isFinite = true := by
  have hbody := h.body
  have hregion := h.region
  simp only [bounds, List.forall_mem_cons, List.not_mem_nil, false_imp_iff, implies_true, and_true]
  exact ⟨isFinite_of_isDistance hbody.forward, isFinite_of_isDistance hbody.backward,
    isFinite_of_isDistance hbody.side, isFinite_of_isDistance hregion.forward,
    isFinite_of_isDistance hregion.backward, isFinite_of_isDistance hregion.side, h.heightMin,
    h.heightMax⟩

/-- The span of the region and the band of heights are not empty: the origin is in the one and the
lower bound in the other. -/
theorem IsSound.spans_low : t.Spans 0 t.heightMin := by
  have hlow := Single.isNaN_of_isFinite h.heightMin
  have hhigh := Single.isNaN_of_isFinite h.heightMax
  have hbackward := Single.neg_le_neg (Single.nonneg_of_isDistance h.region.backward)
  refine ⟨⟨Single.le_trans hbackward (by decide), Single.nonneg_of_isDistance h.region.forward⟩,
    Single.le_refl hlow, ?_⟩
  exact Single.le_of_lt ((Single.not_le_iff hhigh hlow).1 h.heights)

/-- **Both sides of the region are in danger**, over all its span and at all heights of the band. -/
theorem IsSound.inDanger_of_spans {s y z : Float32} (hs : IsSign s) (hspans : t.Spans y z) :
    t.InDanger ⟨s * t.region.side, y, z⟩ := by
  obtain ⟨⟨hback, hfront⟩, hlow, hhigh⟩ := hspans
  have hside := isFinite_of_isDistance h.region.side
  have hbackward := Single.isFinite_neg (isFinite_of_isDistance h.region.backward)
  have hforward := isFinite_of_isDistance h.region.forward
  have hfinite : Point.isFinite ⟨s * t.region.side, y, z⟩ = true :=
    (Point.isFinite_iff _).2 ⟨hs.isFinite_mul hside,
      Single.isFinite_of_le_of_le hbackward hforward hback hfront,
      Single.isFinite_of_le_of_le h.heightMin h.heightMax hlow hhigh⟩
  -- the lateral coordinate is as far from the axis as the side of the region
  obtain ⟨hle, hge⟩ := hs.abs_mul (Single.nonneg_of_isDistance h.region.side)
  refine ⟨hfinite, ⟨hlow, hhigh⟩, ⟨hback, hfront, hle⟩, fun hbody => ?_⟩
  exact h.margin (Single.le_of_lt (Single.lt_of_le_of_lt hge hbody.2.2))

end

/-- **Thresholds that pass leave danger on both sides of the region**, over all its span and at all
heights of the band, and there are such points. Thresholds with a bound that is not finite are
rejected, and so are those by which no finite point at all is in danger. -/
theorem validate_guards_sides (t : Thresholds) :
    (t.validate = .ok () → ∀ s, IsSign s →
      (∀ y z, t.Spans y z → t.zone ⟨s * t.region.side, y, z⟩ = .qualifying) ∧ ∃ y z, t.Spans y z) ∧
    ((∃ bound ∈ t.bounds, bound.isFinite = false) → t.IsRejected) ∧
    ((∀ p : Point, p.isFinite = true → t.zone p ≠ .qualifying) → t.IsRejected) := by
  rcases t.validate_cases with hok | hrejected
  · have hsound := (validate_eq_ok_iff t).1 hok
    have hsides : ∀ s, IsSign s → ∀ y z, t.Spans y z →
        t.zone ⟨s * t.region.side, y, z⟩ = .qualifying := fun s hs y z hspans =>
      (zone_eq_qualifying_iff_inDanger hsound _).2 (hsound.inDanger_of_spans hs hspans)
    refine ⟨fun _ s hs => ⟨hsides s hs, _, _, hsound.spans_low⟩, ?_, fun hnone => ?_⟩
    · rintro ⟨bound, hbound, hinfinite⟩
      cases (hsound.isFinite_bounds bound hbound).symm.trans hinfinite
    · have hright : IsSign 1 := .inl rfl
      have hdanger := hsound.inDanger_of_spans hright hsound.spans_low
      exact absurd (hsides 1 hright _ _ hsound.spans_low) (hnone _ hdanger.1)
  · refine ⟨fun hok => ?_, fun _ => hrejected, fun _ => hrejected⟩
    obtain ⟨defect, -, herror⟩ := hrejected
    cases hok.symm.trans herror

/-- A region without depth, as narrow as can be, around a vehicle without width. -/
def sliver : Thresholds :=
  { body := ⟨5, 5, 0⟩, region := ⟨0, 0, .ofBits 1⟩, heightMin := -1, heightMax := 0 }

/-- Thresholds like those of the sliver, without an upper bound of the heights. -/
def tower : Thresholds := { sliver with heightMax := 1 / 0 }

/-- Thresholds like those of the sliver, with the bounds of the heights exchanged. -/
def upended : Thresholds := { sliver with heightMin := 0, heightMax := -1 }

/-- No finite height is between exchanged bounds. -/
theorem zone_upended_ne {p : Point} (hp : p.isFinite = true) : upended.zone p ≠ .qualifying := by
  intro hzone
  obtain ⟨-, -, hheights, -⟩ := (zone_eq_qualifying_iff _ p).1 hzone
  have hz := Single.isNaN_of_isFinite ((Point.isFinite_iff p).1 hp).2.2
  rw [not_or, Single.not_lt_iff hz (by decide), Single.not_lt_iff (by decide) hz] at hheights
  exact absurd (Single.le_trans hheights.1 hheights.2) (by decide)

/-- A sliver that is accepted has points on its sides, a tower without end is rejected, and so is a
region whose sides have changed places. -/
theorem validate_guards_sides_sliver :
    (sliver.validate = .ok () ∧ IsSign (-1) ∧ sliver.Spans 0 (-1) ∧
      sliver.zone ⟨-1 * sliver.region.side, 0, -1⟩ = .qualifying) ∧
    ((∃ bound ∈ tower.bounds, bound.isFinite = false) ∧ tower.IsRejected) ∧
    (∀ p : Point, p.isFinite = true → upended.zone p ≠ .qualifying) ∧ upended.IsRejected := by
  have hvalid : sliver.validate = .ok () := rfl
  have hleft : IsSign (-1) := .inr rfl
  have hspans : sliver.Spans 0 (-1) := ⟨⟨by decide, by decide⟩, by decide, by decide⟩
  have htower : ∃ bound ∈ tower.bounds, bound.isFinite = false :=
    ⟨tower.heightMax, by simp [bounds], by decide⟩
  have hupended : ∀ p : Point, p.isFinite = true → upended.zone p ≠ .qualifying :=
    fun _ => zone_upended_ne
  exact ⟨⟨hvalid, hleft, hspans, ((validate_guards_sides sliver).1 hvalid _ hleft).1 _ _ hspans⟩,
    ⟨htower, (validate_guards_sides tower).2.1 htower⟩,
    hupended, (validate_guards_sides upended).2.2 hupended⟩

end Thresholds

end CollisionWatch
