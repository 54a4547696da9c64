import CollisionWatch.Proofs.Decimal.Binary
import CollisionWatch.Proofs.Replay.Lines
import CollisionWatch.Proofs.Wire.RoundTrip
import CollisionWatch.Replay.FrameLog
import CollisionWatch.Risk.Zone

/-!
# Clouds recorded and replayed

A cloud is recorded as one line of a frame log.  What is not finite has no literal and is recorded
as `null`, which is no coordinate; so one such coordinate costs the whole cloud, although a sentinel
would only have passed over its point.  Main statement: the replay of a recorded cloud is judged as
the cloud was if and only if all its coordinates are finite; otherwise the line is malformed and the
cloud is lost (`preserves_read_iff`).
-/

namespace CollisionWatch

open Decimal Json Wire

/-! ## What is not finite -/

/-- What is not finite has no numeral. -/
theorem numeral_eq_none {style : Style} {b : Binary} {u : Float.Model.UnpackedFloat}
    (h : b.Matches u) (hu : u.isFinite = false) : style.numeral b = none := by
  cases h with
  | notANumber => rfl
  | infinity sign => rfl
  | zero sign exponent => cases hu
  | finite sign significand exponent hpos narrow => cases hu

/-- Only what is finite is read back from what was written of it. -/
theorem isFinite_of_single?_eq_some {x y : Float32} (h : (Value.ofSingle x).single? = some y) :
    x.isFinite = true := by
  by_contra hnot
  have hinfinite : x.toModel.unpack.isFinite = false := Bool.eq_false_iff.2 hnot
  rw [Value.ofSingle, ofBinary, numeral_eq_none (Binary.matches_ofSingle x) hinfinite] at h
  cases h

/-- JSON keeps the coordinates of a point that are finite. -/
structure Point.KeepsFinite (p : Point) : Prop where
  x : p.x.isFinite = true → KeepsSingle p.x
  y : p.y.isFinite = true → KeepsSingle p.y
  z : p.z.isFinite = true → KeepsSingle p.z

/-- A finite point keeps all its coordinates if they are kept where they are finite. -/
theorem Point.KeepsFinite.isKept {p : Point} (h : Point.KeepsFinite p) (hp : Point.isFinite p = true) :
    Point.IsKept p := by
  obtain ⟨hx, hy, hz⟩ := (Point.isFinite_iff p).1 hp
  exact ⟨h.x hx, h.y hy, h.z hz⟩

/-- A point that is read back has finite coordinates. -/
theorem isFinite_of_point?_eq_some {p q : Point} (h : point? (ofPoint p) = some q) :
    Point.isFinite p = true := by
  rw [point?, ofPoint, Value.fields?_ofMembers (by decide : pointFields.Nodup)] at h
  · obtain ⟨x, hx, y, hy, z, hz, -⟩ : ∃ x, (Value.ofSingle p.x).single? = some x ∧
        ∃ y, (Value.ofSingle p.y).single? = some y ∧
          ∃ z, (Value.ofSingle p.z).single? = some z ∧ (⟨x, y, z⟩ : Point) = q := by
      simpa [Option.bind_eq_some_iff] using h
    exact (Point.isFinite_iff p).2 ⟨isFinite_of_single?_eq_some hx, isFinite_of_single?_eq_some hy,
      isFinite_of_single?_eq_some hz⟩
  · rfl

/-- A cloud that is read back has finite points. -/
theorem isFinite_of_cloud?_eq_some {c d : Cloud} (h : cloud? (ofCloud c) = some d) :
    ∀ p ∈ c.points, Point.isFinite p = true := by
  rw [cloud?, ofCloud, Value.fields?_ofMembers (by decide : cloudFields.Nodup)] at h
  · obtain ⟨time, -, points, hpoints, -⟩ : ∃ time, (Value.ofDouble c.time).double? = some time ∧
        ∃ points, (Value.array (c.points.map ofPoint)).listOf? point? = some points ∧
          (⟨c.frame, time, points⟩ : Cloud) = d := by
      simpa [Option.bind_eq_some_iff, Value.text?] using h
    rw [Value.listOf?, List.mapM_map] at hpoints
    intro p hp
    obtain ⟨q, hq⟩ := Option.isSome_iff_exists.1 (Value.isSome_of_mapM_eq_some hpoints p hp)
    exact isFinite_of_point?_eq_some hq
  · rfl

/-! ## One line of a log -/

/-- A text without a line feed is one line. -/
theorem lines_eq_singleton {text : List Char} (h : IsOneLine text) (hne : text ≠ []) :
    Text.lines text = [text] := by
  have hfree : '\n' ∉ text := by
    intro hmem
    exact absurd (h '\n' hmem) (by decide)
  have hpieces := List.cons.inj (Text.pieces_of_notMem hfree)
  have hsplit : Text.splitFeeds text = (text, []) := Prod.ext hpieces.1 hpieces.2
  obtain ⟨c, rest, rfl⟩ := List.exists_cons_of_ne_nil hne
  rw [Text.lines, hsplit]
  rfl

/-- The line of a recorded cloud holds what its JSON value is read as. -/
theorem read_valueChars (c : Cloud) :
    LogLine.read (valueChars (ofCloud c)) = (cloud? (ofCloud c)).elim .malformed .cloud := by
  obtain ⟨cs, hchars⟩ : ∃ cs, valueChars (ofCloud c) = '\x7b' :: cs := by
    simp [ofCloud, Value.ofMembers, valueChars]
  have hread := readChars?_valueChars (isSound_ofCloud c)
  rw [hchars] at hread ⊢
  rw [LogLine.read, trimStart_cons (by decide), hread, Option.bind_some]
  cases cloud? (ofCloud c) <;> rfl

/-- A log of one recorded cloud has one line. -/
theorem lines_read_compact (c : Cloud) :
    (FrameLog.read (ofCloud c).compact).lines =
      [(cloud? (ofCloud c)).elim .malformed .cloud] := by
  obtain ⟨d, cs, hchars, -⟩ := exists_valueChars_eq_cons (isSound_ofCloud c)
  have hline := lines_eq_singleton (isOneLine_valueChars (isSound_ofCloud c)) (by simp [hchars])
  rw [FrameLog.read, Value.compact, String.toList_ofList, hline, List.map_singleton, read_valueChars]

/-- The line of a cloud with finite coordinates is that cloud. -/
theorem lines_of_forall_isFinite {c : Cloud} (htime : KeepsDouble c.time)
    (hpoints : ∀ p ∈ c.points, Point.KeepsFinite p)
    (hfinite : ∀ p ∈ c.points, Point.isFinite p = true) :
    (FrameLog.read (ofCloud c).compact).lines = [.cloud c] := by
  have hread := cloud?_ofCloud ⟨htime, fun p hp => (hpoints p hp).isKept (hfinite p hp)⟩
  rw [lines_read_compact, hread]
  rfl

/-- The line of a cloud with another coordinate is malformed. -/
theorem lines_of_not_forall_isFinite {c : Cloud}
    (hfinite : ¬ ∀ p ∈ c.points, Point.isFinite p = true) :
    (FrameLog.read (ofCloud c).compact).lines = [.malformed] := by
  have hread : cloud? (ofCloud c) = none := by
    by_contra hsome
    obtain ⟨d, hd⟩ := Option.ne_none_iff_exists'.1 hsome
    exact hfinite (isFinite_of_cloud?_eq_some hd)
  rw [lines_read_compact, hread]
  rfl

/-! ## Judgements -/

/-- The log holds one cloud, of the same frame and time as `c`, and every judgement on it is the
same. -/
def FrameLog.Preserves (log : FrameLog) (c : Cloud) : Prop :=
  ∃ d, log.clouds = [d] ∧ d.frame = c.frame ∧ d.time = c.time ∧
    ∀ (t : Thresholds) (pose : Pose Float32), t.isRisky d pose = t.isRisky c pose

/-- A log with a malformed line and nothing else preserves no cloud. -/
theorem FrameLog.not_preserves {log : FrameLog} (h : log.lines = [.malformed]) (c : Cloud) :
    ¬ log.Preserves c := by
  rintro ⟨d, hd, -⟩
  rw [FrameLog.clouds, h] at hd
  cases hd

/-- **A recorded cloud is replayed as it was if all its coordinates are finite, and lost
otherwise.** -/
theorem preserves_read_iff {c : Cloud} (htime : KeepsDouble c.time)
    (hpoints : ∀ p ∈ c.points, Point.KeepsFinite p) :
    let log := FrameLog.read (ofCloud c).compact
    (log.Preserves c ↔ ∀ p ∈ c.points, Point.isFinite p = true) ∧
      log.clouds = (if c.points.all Point.isFinite then [c] else []) ∧
      log.malformed = (if c.points.all Point.isFinite then [] else [1]) := by
  intro log
  by_cases hfinite : ∀ p ∈ c.points, Point.isFinite p = true
  · have hlines : log.lines = [.cloud c] := lines_of_forall_isFinite htime hpoints hfinite
    have hclouds : log.clouds = [c] := by rw [FrameLog.clouds, hlines]; rfl
    rw [if_pos (List.all_eq_true.2 hfinite), if_pos (List.all_eq_true.2 hfinite)]
    refine ⟨iff_of_true ⟨c, hclouds, rfl, rfl, fun _ _ => rfl⟩ hfinite, hclouds, ?_⟩
    rw [FrameLog.malformed, hlines]
    rfl
  · have hlines : log.lines = [.malformed] := lines_of_not_forall_isFinite hfinite
    have hall : ¬ c.points.all Point.isFinite = true := fun h => hfinite (List.all_eq_true.1 h)
    rw [if_neg hall, if_neg hall]
    refine ⟨iff_of_false (FrameLog.not_preserves hlines c) hfinite, ?_, ?_⟩
    · rw [FrameLog.clouds, hlines]
      rfl
    · rw [FrameLog.malformed, hlines]
      rfl

/-- A cloud before a wall, with one return that is no number. -/
def glare : Cloud := ⟨"lidar \"front\"", 1.5, [⟨0.0 / 0.0, 5, 1⟩, ⟨0.1, 5, 1⟩]⟩

/-- The hypotheses hold of a cloud with a return that is no number, and its recording is malformed. -/
theorem preserves_read_glare : KeepsDouble glare.time ∧ (∀ p ∈ glare.points, Point.KeepsFinite p) ∧
    (FrameLog.read (ofCloud glare).compact).malformed = [1] := by
  have htime : KeepsDouble glare.time := ⟨rfl, rfl⟩
  have hpoints : ∀ p ∈ glare.points, Point.KeepsFinite p := by
    have hfive : KeepsSingle 5 := ⟨rfl, by decide +kernel⟩
    have hone : KeepsSingle 1 := ⟨rfl, by decide +kernel⟩
    have htenth : KeepsSingle 0.1 := ⟨rfl, by decide +kernel⟩
    have hnone : (0.0 / 0.0 : Float32).isFinite = false := rfl
    simp only [glare, List.forall_mem_cons]
    exact ⟨⟨fun h => absurd h (by simp [hnone]), fun _ => hfive, fun _ => hone⟩,
      ⟨fun _ => htenth, fun _ => hfive, fun _ => hone⟩, by simp⟩
  exact ⟨htime, hpoints, (preserves_read_iff htime hpoints).2.2⟩

/-- A sentinel sees the wall in such a cloud, but its recording is lost. -/
theorem glare_lost : KeepsDouble glare.time ∧
    Thresholds.isRisky { minPoints := 1 } glare ⟨.zero, .identity⟩ = true ∧
    (FrameLog.read (ofCloud glare).compact).lines = [.malformed] ∧
    ¬ (FrameLog.read (ofCloud glare).compact).Preserves glare := by
  have hlines : (FrameLog.read (ofCloud glare).compact).lines = [.malformed] :=
    lines_of_not_forall_isFinite fun h => by
      have hfirst := h ⟨0.0 / 0.0, 5, 1⟩ (by simp [glare])
      revert hfirst
      decide
  exact ⟨⟨rfl, rfl⟩, by decide +kernel, hlines, FrameLog.not_preserves hlines glare⟩

end CollisionWatch
