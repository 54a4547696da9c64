import CollisionWatch.Proofs.Monitor.Cadence

/-!
# A clock that is set back

The next round of a runner is kept as a time of the clock, and the clock of a watch may be set back.
Nothing else is kept, so the clock alone decides: in exact arithmetic a runner waits until the clock
reads nine tenths of its interval more than at its last call, over all ticks before that, whether
the clock comes closer or moves away (`callsAt_append_of_lt`), and the first tick at which it reads
that much calls the runner (`callsAt_tick_of_le`). So a clock that goes forward is followed within
an interval (`goesByClock`); after a clock was set back, a runner is not called before the clock has
made up for it, however far it was set back (`not_calledEitherWay`).
-/

namespace CollisionWatch.Schedule

variable {K : Type} [Field K] [LinearOrder K] [IsStrictOrderedRing K]

section

variable {actions : List (Action K K)} {place : Nat} {name : String} {interval last : K}
  (hplace : (added actions)[place]? = some (name, interval))

omit [Field K] [LinearOrder K] [IsStrictOrderedRing K] in
include hplace in
/-- A runner keeps its place when more is done. -/
theorem getElem?_added_append (later : List (Action K K)) :
    (added (actions ++ later))[place]? = some (name, interval) := by
  rw [added, List.filterMap_append, ← added,
    List.getElem?_append_left (List.getElem?_eq_some_iff.1 hplace).1, hplace]

variable (hlast : last ∈ (callsAt Scheduled.exact place actions).getLast?)

include hplace hlast

/-- **No tick calls a runner before the clock is nine tenths of its interval ahead of its last
call**, wherever the clock goes. -/
theorem callsAt_append_of_lt {later : List (Action K K)}
    (hlater : ∀ t ∈ ticks later, t - last < 9 / 10 * interval) :
    callsAt Scheduled.exact place (actions ++ later) = callsAt Scheduled.exact place actions := by
  induction later using List.reverseRecOn with
  | nil => rw [List.append_nil]
  | append_singleton later action ih =>
    rw [← List.append_assoc]
    cases action with
    | add other interval' =>
      rw [ticks_add] at hlater
      rw [callsAt_add, ih hlater]
    | tick time =>
      rw [ticks_tick] at hlater
      have hbefore := ih fun t ht => hlater t (List.mem_append_left _ ht)
      have htime := hlater time (List.mem_append_right _ List.mem_cons_self)
      rw [makesNew_exact.callsAt_tick (getElem?_added_append hplace later), hbefore,
        Option.mem_def.1 hlast]
      exact (congrArg _ (callOn_of_lt htime)).trans (List.append_nil _)

/-- **The first tick at which the clock is that far ahead calls the runner.** -/
theorem callsAt_tick_of_le {later : List (Action K K)}
    (hlater : ∀ t ∈ ticks later, t - last < 9 / 10 * interval) {time : K}
    (htime : 9 / 10 * interval ≤ time - last) :
    callsAt Scheduled.exact place (actions ++ later ++ [.tick time]) =
      callsAt Scheduled.exact place actions ++ [time] := by
  rw [makesNew_exact.callsAt_tick (getElem?_added_append hplace later),
    callsAt_append_of_lt hplace hlast hlater, Option.mem_def.1 hlast]
  exact congrArg _ (callOn_of_le htime)

end

/-- How the runner at a place is called by a clock that may be set back. -/
structure GoesByClock (actions : List (Action K K)) (place : Nat) (interval : K) : Prop where
  /-- The first tick calls the runner, whatever the clock reads. -/
  first : callsAt Scheduled.exact place actions = [] → ∀ time,
    callsAt Scheduled.exact place (actions ++ [.tick time]) = [time]
  /-- A tick calls the runner if the clock is an interval or more ahead of its last call. -/
  ahead : ∀ last ∈ (callsAt Scheduled.exact place actions).getLast?, ∀ time,
    interval ≤ time - last → callsAt Scheduled.exact place (actions ++ [.tick time]) =
      callsAt Scheduled.exact place actions ++ [time]
  /-- While the clock is less than nine tenths of an interval ahead, or behind, no tick does. -/
  waits : ∀ last ∈ (callsAt Scheduled.exact place actions).getLast?, ∀ later,
    (∀ t ∈ ticks later, t - last < 9 / 10 * interval) →
      callsAt Scheduled.exact place (actions ++ later) = callsAt Scheduled.exact place actions
  /-- The first tick after such a while does. -/
  resumes : ∀ last ∈ (callsAt Scheduled.exact place actions).getLast?, ∀ later,
    (∀ t ∈ ticks later, t - last < 9 / 10 * interval) → ∀ time,
      9 / 10 * interval ≤ time - last →
        callsAt Scheduled.exact place (actions ++ later ++ [.tick time]) =
          callsAt Scheduled.exact place actions ++ [time]

/-- **A runner goes by the clock**: it is called when the clock is an interval ahead of its last
call, and after the clock was set back it waits until then. -/
theorem goesByClock {actions : List (Action K K)} {place : Nat} {name : String} {interval : K}
    (hplace : (added actions)[place]? = some (name, interval)) (hinterval : 0 ≤ interval) :
    GoesByClock actions place interval where
  first hnone time := by
    rw [makesNew_exact.callsAt_tick hplace, hnone]
    rfl
  ahead last hlast time htime := by
    have hle : 9 / 10 * interval ≤ time - last := by linarith
    have hnone : ∀ t ∈ ticks ([] : List (Action K K)), t - last < 9 / 10 * interval := nofun
    have hcall := callsAt_tick_of_le hplace hlast hnone hle
    rwa [List.append_nil] at hcall
  waits _ hlast _ := callsAt_append_of_lt hplace hlast
  resumes _ hlast _ hlater _ := callsAt_tick_of_le hplace hlast hlater

/-- Two runners, of which the second one was called at a thousand seconds. -/
def twoCalled : List (Action ℚ ℚ) :=
  [.add "lidar" 3, .tick 990, .add "brake" 1, .tick 1000]

/-- After the clock is set back the second runner waits until it has made up for it. -/
theorem goesByClock_setBack :
    (added twoCalled)[1]? = some ("brake", 1) ∧ (0 : ℚ) ≤ 1 ∧ GoesByClock twoCalled 1 1 ∧
      callsAt Scheduled.exact 1 (twoCalled ++ [.tick 100, .tick 101, .tick 1000] ++ [.tick 1001]) =
        [1000, 1001] := by
  have hplace : (added twoCalled)[1]? = some ("brake", 1) := rfl
  have hclock := goesByClock hplace zero_le_one
  have hcalls : callsAt Scheduled.exact 1 twoCalled = [1000] := by decide +kernel
  have hlast : 1000 ∈ (callsAt Scheduled.exact 1 twoCalled).getLast? := by
    rw [hcalls]
    rfl
  refine ⟨hplace, zero_le_one, hclock, ?_⟩
  rw [hclock.resumes 1000 hlast [.tick 100, .tick 101, .tick 1000] (by decide +kernel) 1001
    (by norm_num), hcalls]
  rfl

/-- A tick calls a runner as soon as the clock is its interval away from its last call, ahead of it
or behind. -/
def CalledEitherWay (actions : List (Action ℚ ℚ)) (place : Nat) (interval : ℚ) : Prop :=
  ∀ last ∈ (callsAt Scheduled.exact place actions).getLast?, ∀ time, interval ≤ |time - last| →
    callsAt Scheduled.exact place (actions ++ [.tick time]) =
      callsAt Scheduled.exact place actions ++ [time]

/-- **A tick after the clock was set back calls nobody**, although the interval of the runner is a
tenth of a second and the clock was set back by more than a quarter of an hour. -/
theorem not_calledEitherWay : ¬ CalledEitherWay [.add "brake" (1 / 10), .tick 1000] 0 (1 / 10) := by
  intro h
  have hcalls : callsAt Scheduled.exact 0 [.add "brake" (1 / 10 : ℚ), .tick 1000] = [1000] := by
    decide +kernel
  have hlast : 1000 ∈ (callsAt Scheduled.exact 0
      [.add "brake" (1 / 10 : ℚ), .tick 1000]).getLast? := by
    rw [hcalls]
    rfl
  have hback := h 1000 hlast 0 (by norm_num)
  rw [hcalls] at hback
  exact absurd hback (by decide +kernel)

/-- In doubles it is the same. -/
example : callsAt Scheduled.every 0
    [.add "brake" .tenthOfSecond, .tick 1000, .tick 0, .tick 999, .tick 1001] = [1000, 1001] := by
  decide +kernel

end CollisionWatch.Schedule
