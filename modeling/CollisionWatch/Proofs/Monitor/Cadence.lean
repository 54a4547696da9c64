import CollisionWatch.Proofs.Monitor.Timetable
import Mathlib.Algebra.Order.Field.Basic
import Mathlib.Algebra.Order.Floor.Semiring
import Mathlib.Data.List.Chain
import Mathlib.Data.Rat.Floor
import Mathlib.Tactic.FieldSimp
import Mathlib.Tactic.Linarith

/-!
# The cadence of a runner

The next round of a runner is measured from the tick that ran it, which may be a tenth of the
interval early or any time late.  In exact arithmetic early ticks do not add up: a tick calls the
runner exactly if nine tenths of its interval have passed since its last call (`callOn_of_le`,
`callOn_of_lt`), whenever that was.  Main statement: calls keep that distance, so a window holds no
more of them than it has room for; they are no further apart than the ticks make them; and ticks
that stray little from the interval all count (`keepsCadence`).
-/

namespace CollisionWatch

variable {K : Type} [Field K] [LinearOrder K] [IsStrictOrderedRing K]

/-- A runner whose interval and times are exact, with a tenth of its interval as slack. -/
def Scheduled.exact (name : String) (interval : K) : Scheduled K :=
  { name, interval, slack := interval / 10 }

namespace Schedule

omit [LinearOrder K] [IsStrictOrderedRing K] in
/-- Exact runners are new. -/
theorem makesNew_exact : MakesNew (Scheduled.exact (K := K)) where
  name _ _ := rfl
  next _ _ := rfl
  rounds _ _ := rfl

variable {interval time last : K}

/-! ## One tick -/

/-- A tick calls a runner if nine tenths of its interval have passed. -/
theorem callOn_of_le (h : 9 / 10 * interval ≤ time - last) :
    callOn interval (interval / 10) (some last) time = [time] := by
  have hnot : ¬ interval / 10 < last + interval - time := by
    intro hlt
    linarith
  rw [callOn_some, if_neg hnot]

/-- A tick does not call a runner before that. -/
theorem callOn_of_lt (h : time - last < 9 / 10 * interval) :
    callOn interval (interval / 10) (some last) time = [] := by
  have hlt : interval / 10 < last + interval - time := by linarith
  rw [callOn_some, if_pos hlt]

/-- What one more tick adds to a timetable: it is the first call, or a call if the last one is long
enough ago, and nothing otherwise. -/
theorem timetable_concat_cases (interval : K) (times : List K) (time : K) :
    (timetable interval (interval / 10) times = [] ∧
        timetable interval (interval / 10) (times ++ [time]) = [time]) ∨
      ∃ last, (timetable interval (interval / 10) times).getLast? = some last ∧
        (9 / 10 * interval ≤ time - last ∧ timetable interval (interval / 10) (times ++ [time]) =
            timetable interval (interval / 10) times ++ [time] ∨
          time - last < 9 / 10 * interval ∧ timetable interval (interval / 10) (times ++ [time]) =
            timetable interval (interval / 10) times) := by
  rw [timetable_concat]
  generalize timetable interval (interval / 10) times = calls
  cases hlast : calls.getLast? with
  | none =>
    obtain rfl := List.getLast?_eq_none_iff.1 hlast
    exact .inl ⟨rfl, rfl⟩
  | some last =>
    refine .inr ⟨last, rfl, ?_⟩
    rcases le_or_gt (9 / 10 * interval) (time - last) with hle | hlt
    · exact .inl ⟨hle, by rw [callOn_of_le hle]⟩
    · exact .inr ⟨hlt, by rw [callOn_of_lt hlt, List.append_nil]⟩

/-! ## Runs of ticks -/

omit [Field K] [LinearOrder K] [IsStrictOrderedRing K] in
/-- A chain goes on with what follows its last item. -/
theorem isChain_concat {R : K → K → Prop} {calls : List K} (h : calls.IsChain R)
    (hlast : calls.getLast? = some last) (htime : R last time) : (calls ++ [time]).IsChain R := by
  refine List.isChain_append.2 ⟨h, List.isChain_singleton time, fun a ha b hb => ?_⟩
  obtain rfl : last = a := Option.some.inj (hlast.symm.trans ha)
  obtain rfl : time = b := Option.some.inj hb
  exact htime

/-- Calls are nine tenths of the interval apart. -/
theorem isChain_timetable (interval : K) (times : List K) :
    (timetable interval (interval / 10) times).IsChain fun a b => 9 / 10 * interval ≤ b - a := by
  induction times using List.reverseRecOn with
  | nil => exact List.isChain_nil
  | append_singleton times time ih =>
    rcases timetable_concat_cases interval times time with
      ⟨-, hnext⟩ | ⟨last, hlast, ⟨hle, hnext⟩ | ⟨-, hnext⟩⟩
    · rw [hnext]
      exact List.isChain_singleton time
    · rw [hnext]
      exact isChain_concat ih hlast hle
    · rw [hnext]
      exact ih

/-- At its latest tick a runner was called less than nine tenths of its interval ago. -/
theorem exists_recent_call (hpos : 0 < interval) {times : List K} (h : times.getLast? = some time) :
    ∃ last, (timetable interval (interval / 10) times).getLast? = some last ∧
      time - last < 9 / 10 * interval := by
  obtain ⟨before, rfl⟩ := List.getLast?_eq_some_iff.1 h
  have hnow : time - time < 9 / 10 * interval := by linarith
  rcases timetable_concat_cases interval before time with
    ⟨-, hnext⟩ | ⟨last, hlast, ⟨-, hnext⟩ | ⟨hlt, hnext⟩⟩
  · rw [hnext]
    exact ⟨time, rfl, hnow⟩
  · rw [hnext]
    exact ⟨time, List.getLast?_concat, hnow⟩
  · rw [hnext]
    exact ⟨last, hlast, hlt⟩

/-- Calls are as far apart as nine tenths of the interval and one tick more, at most. -/
theorem isChain_timetable_of_isChain (hpos : 0 < interval) {distance : K} {times : List K}
    (h : times.IsChain fun a b => b - a ≤ distance) :
    (timetable interval (interval / 10) times).IsChain
      fun a b => b - a < 9 / 10 * interval + distance := by
  induction times using List.reverseRecOn with
  | nil => exact List.isChain_nil
  | append_singleton times time ih =>
    obtain ⟨htimes, -, hstep⟩ := List.isChain_append.1 h
    rcases timetable_concat_cases interval times time with
      ⟨-, hnext⟩ | ⟨last, hlast, ⟨-, hnext⟩ | ⟨-, hnext⟩⟩
    · rw [hnext]
      exact List.isChain_singleton time
    · rw [hnext]
      refine isChain_concat (ih htimes) hlast ?_
      -- The tick before was less than nine tenths of the interval after the last call.
      cases hprevious : times.getLast? with
      | none =>
        obtain rfl := List.getLast?_eq_none_iff.1 hprevious
        cases hlast
      | some previous =>
        obtain ⟨recent, hrecent, hlt⟩ := exists_recent_call hpos hprevious
        obtain rfl : last = recent := Option.some.inj (hlast.symm.trans hrecent)
        have hle := hstep previous hprevious time rfl
        linarith
    · rw [hnext]
      exact ih htimes

/-- Ticks that stray little from the interval are all calls. -/
theorem timetable_eq_self {base : K} {times : List K}
    (h : ∀ (k : ℕ) (t : K), times[k]? = some t → |t - (base + k * interval)| ≤ interval / 20) :
    timetable interval (interval / 10) times = times := by
  induction times using List.reverseRecOn with
  | nil => rfl
  | append_singleton times time ih =>
    have hbefore : timetable interval (interval / 10) times = times := by
      refine ih fun k t ht => h k t ?_
      rw [List.getElem?_append_left (List.getElem?_eq_some_iff.1 ht).1, ht]
    have htime := h times.length time List.getElem?_concat_length
    rcases timetable_concat_cases interval times time with
      ⟨hnil, hnext⟩ | ⟨last, hlast, ⟨-, hnext⟩ | ⟨hlt, -⟩⟩
    · rw [hnext, ← hbefore, hnil, List.nil_append]
    · rw [hnext, hbefore]
    · -- Two ticks in a row are too close by a tenth of the interval at most.
      exfalso
      rw [hbefore] at hlast
      obtain ⟨front, rfl⟩ := List.getLast?_eq_some_iff.1 hlast
      have hprevious := h front.length last (by simp)
      rw [List.length_append, List.length_singleton] at htime
      push_cast at htime
      rw [abs_le] at htime hprevious
      linarith

/-! ## How many calls there are -/

/-- Times that are apart need room. -/
theorem add_length_mul_le {gap bound first : K} {times : List K}
    (h : (first :: times).IsChain fun a b => gap ≤ b - a)
    (hbound : ∀ t ∈ first :: times, t ≤ bound) :
    first + times.length * gap ≤ bound := by
  induction times generalizing first with
  | nil => simpa using hbound first List.mem_cons_self
  | cons next times ih =>
    obtain ⟨hgap, hrest⟩ := List.isChain_cons_cons.1 h
    have hnext := ih hrest fun t ht => hbound t (List.mem_cons_of_mem first ht)
    rw [List.length_cons, Nat.cast_succ]
    linarith

/-- A window holds no more times that are apart than it has room for. -/
theorem length_window_le [FloorSemiring K] {gap : K} (hgap : 0 < gap) {times : List K}
    (h : times.IsChain fun a b => gap ≤ b - a) (start length : K) :
    (times.filter fun t => start ≤ t ∧ t ≤ start + length).length ≤ ⌊length / gap⌋₊ + 1 := by
  let _ : Trans (fun a b : K => gap ≤ b - a) (fun a b => gap ≤ b - a) fun a b => gap ≤ b - a :=
    ⟨fun hab hbc => by linarith⟩
  have hwindow : (times.filter fun t => start ≤ t ∧ t ≤ start + length).IsChain
      fun a b => gap ≤ b - a := (h.pairwise.filter _).isChain
  have hinside : ∀ t ∈ times.filter fun t => start ≤ t ∧ t ≤ start + length,
      start ≤ t ∧ t ≤ start + length := fun t ht => of_decide_eq_true (List.mem_filter.1 ht).2
  generalize times.filter _ = inside at hwindow hinside
  cases inside with
  | nil => exact Nat.zero_le _
  | cons first rest =>
    have hroom := add_length_mul_le hwindow fun t ht => (hinside t ht).2
    have hfirst := (hinside first List.mem_cons_self).1
    have hle : (rest.length : K) ≤ length / gap := by
      rw [le_div_iff₀ hgap]
      linarith
    rw [List.length_cons]
    exact Nat.succ_le_succ (Nat.le_floor hle)

/-! ## The runners of a schedule -/

/-- How a runner is called that was added before these ticks. -/
structure KeepsCadence [FloorSemiring K] (interval : K) (times calls : List K) : Prop where
  /-- A call comes no sooner than nine tenths of the interval after the one before it. -/
  apart : calls.IsChain fun a b => 9 / 10 * interval ≤ b - a
  /-- No window holds more calls than it has room for at that distance. -/
  window : ∀ start length : K,
    (calls.filter fun t => start ≤ t ∧ t ≤ start + length).length ≤
      ⌊length / (9 / 10 * interval)⌋₊ + 1
  /-- Where the next tick is never far, the next call is no further but for nine tenths of the
  interval. -/
  steady : ∀ distance, (times.IsChain fun a b => b - a ≤ distance) →
    calls.IsChain fun a b => b - a < 9 / 10 * interval + distance
  /-- If ticks stray from the interval by no more than a twentieth of it, all of them are calls. -/
  every : ∀ base : K,
    (∀ (k : ℕ) (t : K), times[k]? = some t → |t - (base + k * interval)| ≤ interval / 20) →
      calls = times

/-- **Runners keep their cadence**, however late or bunched the ticks are and whatever else is done
with the schedule. -/
theorem keepsCadence [FloorSemiring K] (before : List (Action K K)) (name : String)
    (hpos : 0 < interval) (later : List (Action K K)) :
    KeepsCadence interval (ticks later) (callsAt Scheduled.exact (added before).length
      (before ++ .add name interval :: later)) := by
  have hgap : 0 < 9 / 10 * interval := by linarith
  have htimetable := makesNew_exact.callsAt_eq_timetable before name interval later
  rw [htimetable]
  exact
    { apart := isChain_timetable interval _
      window := fun start length =>
        length_window_le hgap (isChain_timetable interval _) start length
      steady := fun distance h => isChain_timetable_of_isChain hpos h
      every := fun base h => timetable_eq_self h }

/-- A runner that is added behind another one, with early, late and bunched ticks. -/
def bunched : List (Action ℚ ℚ) :=
  [.tick 0, .tick (19 / 20), .tick 1, .add "radar" 2, .tick (7 / 2), .tick (18 / 5), .tick (9 / 2)]

/-- Of these ticks one is early and still counts, two are too early, and one is late. -/
theorem keepsCadence_bunched :
    (0 : ℚ) < 1 ∧
      KeepsCadence 1 (ticks bunched)
        (callsAt Scheduled.exact 1 ([.add "lidar" 3, .tick 0] ++ .add "brake" 1 :: bunched)) ∧
      callsAt Scheduled.exact 1 ([.add "lidar" 3, .tick 0] ++ .add "brake" 1 :: bunched) =
        [0, 19 / 20, 7 / 2, 9 / 2] := by
  refine ⟨one_pos, keepsCadence [.add "lidar" 3, .tick 0] "brake" one_pos bunched, ?_⟩
  decide +kernel

end Schedule

end CollisionWatch
