import CollisionWatch.CommandLine.Program
import CollisionWatch.Proofs.Double
import CollisionWatch.Proofs.Duration

/-!
# Which intervals can be timed

A replay turns the interval of its monitor into a period, starts timers with it, and waits a few
periods in the end.  So the interval must be a duration, not an empty one, and a few times over
still be a duration (`Settings.IsTimed`).  Settings without a defect have any interval above zero,
which is not enough: `isTimed_iff` says that the interval must lie above half a nanosecond, and a few
times over below `2 ^ 64` seconds.  `accepted_untimed` has one interval for each way to fail.
-/

namespace CollisionWatch.Settings

open Float.Model (UnpackedFloat)
open CommandLine (roundsAfter)

/-- All that a replay computes with its interval is defined. -/
def IsTimed (s : Settings) : Prop :=
  ∃ period pause : Duration, s.period = .ok period ∧ period.nanoseconds ≠ 0 ∧
    period.times roundsAfter = .ok pause

/-- The interval as the number it is. -/
def exactInterval (s : Settings) : ℚ := (Decimal.Binary.ofDouble s.interval).value

/-- Settings without a defect have a finite interval above zero. -/
theorem interval_of_accepted {s : Settings} (h : s.defect? = none) :
    s.interval.isFinite = true ∧ ¬ s.interval ≤ 0 := by
  unfold defect? at h
  split_ifs at h with hblank hinterval
  simpa using hinterval

/-- The comparison with zero looks at the unpacked double. -/
theorem le_zero_iff (x : Float) : x ≤ 0 ↔ x.toModel.unpack.le (.zero .positive) = true := by
  have hzero : (0 : Float).toModel.unpack = .zero .positive := rfl
  change Float.le x 0 = true ↔ _
  rw [Float.le, decide_eq_true_iff, ← hzero]
  exact Iff.rfl

/-- A finite double above zero is a dyadic number. -/
theorem exists_dyadic {x : Float} (hfinite : x.isFinite = true) (hpos : ¬ x ≤ 0) :
    ∃ m e narrow, m < 2 ^ 53 ∧ Decimal.Binary.ofDouble x = .finite false m e narrow := by
  have hmatches := Decimal.Binary.matches_ofDouble x
  change x.toModel.unpack.isFinite = true at hfinite
  rw [le_zero_iff] at hpos
  generalize x.toModel.unpack = unpacked at hmatches hfinite hpos
  generalize hread : Decimal.Binary.ofDouble x = read at hmatches
  cases hmatches with
  | notANumber => cases hfinite
  | infinity sign => cases hfinite
  | zero sign e => exact absurd rfl hpos
  | finite sign m e hm narrow =>
    cases sign with
    | negative => exact absurd rfl hpos
    | positive => exact ⟨m, e, narrow, Decimal.Binary.lt_of_read_eq hread, rfl⟩

/-- **Settings without a defect can be timed exactly if their interval lies above half a nanosecond
and, as often as rounds follow the last cloud, below the longest duration.** -/
theorem isTimed_iff {s : Settings} (h : s.defect? = none) :
    s.IsTimed ↔ 1 / 2 < s.exactInterval * nanosecondsPerSecond ∧
      s.exactInterval * roundsAfter < UInt64.size := by
  obtain ⟨hfinite, hpos⟩ := interval_of_accepted h
  obtain ⟨m, e, narrow, hm, hread⟩ := exists_dyadic hfinite hpos
  have hexact : s.exactInterval = m * 2 ^ e := by
    simp [exactInterval, hread, Decimal.Binary.value]
  have hperiod : s.period = Duration.check (Duration.nearest m e) := Duration.ofSeconds_eq hread
  rw [hexact, ← Duration.nearest_ne_zero_iff,
    ← Duration.mul_nearest_lt_iff hm e (by decide) (by decide)]
  unfold IsTimed
  simp only [hperiod, Duration.times, Duration.check_eq_ok_iff]
  constructor
  · rintro ⟨period, pause, ⟨-, hlength⟩, hnonempty, hmultiple, -⟩
    rw [hlength] at hnonempty hmultiple
    exact ⟨hnonempty, hmultiple⟩
  · rintro ⟨hnonempty, hmultiple⟩
    have hbounded : Duration.nearest m e < UInt64.size * nanosecondsPerSecond :=
      (Nat.le_mul_of_pos_right _ (by decide)).trans_lt hmultiple
    exact ⟨⟨_, hbounded⟩, ⟨_, hmultiple⟩, ⟨hbounded, rfl⟩, hnonempty, hmultiple, rfl⟩

/-- The usual interval of a tenth of a second can be timed. -/
theorem isTimed_standard : standard.defect? = none ∧ standard.IsTimed := by
  have haccepted : standard.defect? = none := rfl
  refine ⟨haccepted, (isTimed_iff haccepted).2 ?_⟩
  have hread : Decimal.Binary.ofDouble standard.interval =
      .finite false 7205759403792794 (-56) false := by decide
  rw [exactInterval, hread]
  norm_num [Decimal.Binary.value, nanosecondsPerSecond, roundsAfter, UInt64.size]

/-- The usual settings with another interval. -/
def hasty (interval : Float) : Settings := { standard with interval }

/-- **Three intervals without a defect that cannot be timed**: the period of the first is empty, the
second is no duration, and as many times over as rounds follow the last cloud the third is none. -/
theorem accepted_untimed :
    ((hasty 1e-10).defect? = none ∧ (hasty 1e-10).period = .ok (.ofNanoseconds 0)) ∧
    ((hasty 1e20).defect? = none ∧ (hasty 1e20).period = .error .noDuration) ∧
    ((hasty 1e19).defect? = none ∧
      (hasty 1e19).period.bind (·.times roundsAfter) = .error .noDuration) := by
  refine ⟨⟨rfl, ?_⟩, ⟨rfl, ?_⟩, ⟨rfl, ?_⟩⟩ <;> decide +kernel

end CollisionWatch.Settings
