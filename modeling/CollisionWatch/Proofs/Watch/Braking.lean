import CollisionWatch.Proofs.Watch.Sound

/-!
# From a cloud to the brakes

A sentinel judges clouds and publishes verdicts, a monitor looks at the newest verdict now and then
and writes the status. In between stands a bus that may overwrite verdicts the monitor has not seen,
clouds that cannot be placed leave no verdict, and gaps break a streak without a word. After a round
the status is nevertheless the one that the marks ask for: a stop if the last cloud with a verdict
closed a long enough streak, and no trace of a stop otherwise.
-/

namespace CollisionWatch

open Double (IsNumber)

namespace Watch

variable {s₀ : Sentinel} {w : Watch} {before since : List Deed}

/-- After a round the status shows what the marks have put into force. -/
theorem Sound.shows_round (h : Sound s₀ before since w) {m : BrakeMonitor}
    (hmonitor : w.monitor = some m) (time : Float) :
    ∃ w', w.act (.round time) = .ok w' ∧ w'.answers = w.answers ∧
      (InForce s₀.streak.threshold.toNat (marksOf s₀ before) (marksOf s₀ since) →
        BrakeMonitor.IsBraking time w'.board.status) ∧
      (¬ InForce s₀.streak.threshold.toNat (marksOf s₀ before) (marksOf s₀ since) →
        BrakeMonitor.IsReleased w'.board.status) := by
  have hinformed := h.informed m hmonitor
  have hshows := BrakeMonitor.shows_round (hinformed.capacity_pos h.capacity) h.poisoned
    h.component time
  refine ⟨_, act_round hmonitor time, rfl, ?_, ?_⟩
  · intro hinForce
    exact hshows.1 (hinformed.foresees_iff.2 hinForce)
  · intro hnot
    exact hshows.2 (Bool.eq_false_iff.2 fun hforesees => hnot (hinformed.foresees_iff.1 hforesees))

/-- **After every round the status demands a stop exactly if the last verdict since the monitor came
was a risky cloud that closed a long enough streak, and otherwise it demands nothing.** -/
theorem status_after_round {thresholds : Thresholds} {vehicle : String}
    {tree : FrameTree (Pose Float32)} {s : Sentinel} {capacity : Nat} {bus : Bus}
    {board : StatusBoard} (hs : Sentinel.create thresholds vehicle tree = .ok s)
    (htree : tree.Built IsNumber) (hbus : Bus.create capacity = .ok bus)
    (hpoisoned : board.poisoned = false)
    (hcomponent : board.status.components.contains BrakeMonitor.component = true)
    (before since : List Deed) (hlost : lostTotal (before ++ since) < UInt64.size)
    (interval : Duration) (time : Float) :
    ∃ early late, run { sentinel := s, bus, board } before = .ok early ∧
      (early.install interval).run (since ++ [.round time]) = .ok late ∧
      late.answers.map Except.isOk = decidedOf s (before ++ since) ∧
      (InForce thresholds.minFrames.toNat (marksOf s before) (marksOf s since) →
        BrakeMonitor.IsBraking time late.board.status) ∧
      (¬ InForce thresholds.minFrames.toNat (marksOf s before) (marksOf s since) →
        BrakeMonitor.IsReleased late.board.status) := by
  have hnew := Sentinel.isNew_of_create hs
  have hbuilt := hnew.built htree
  have hstart : Sound s [] [] { sentinel := s, bus, board } :=
    Sound.start hnew.count (by rw [hnew.stats])
      (Bus.capacity_pos_of_create hbus .collisionWarning)
      (Bus.listeners_of_create hbus .collisionWarning) hpoisoned hcomponent
  have hbefore : lostTotal ([] ++ before) < UInt64.size := by
    rw [lostTotal_append] at hlost
    exact Nat.lt_of_le_of_lt (Nat.le_add_right _ _) hlost
  -- The run up to the monitor, then the run with it, then the round.
  obtain ⟨early, hearly, hsound, hmonitor⟩ := hstart.run hbuilt hnew.threshold_pos before hbefore
  have hnone : early.monitor = none :=
    Option.isNone_iff_eq_none.1 (Option.isSome_eq_false_iff.1 hmonitor)
  obtain ⟨middle, hmiddle, hsound', hmonitor'⟩ :=
    (hsound.install hnone interval).run hbuilt hnew.threshold_pos since hlost
  obtain ⟨m, hm⟩ := Option.isSome_iff_exists.1 hmonitor'
  obtain ⟨late, hround, hanswers, hbraking, hreleased⟩ := hsound'.shows_round hm time
  rw [hnew.threshold] at hbraking hreleased
  refine ⟨early, late, hearly, (foldlM_append_singleton hmiddle _).trans hround, ?_, hbraking,
    hreleased⟩
  rw [hanswers]
  exact hsound'.answers

/-- The third look at a wall stops the vehicle, although the monitor missed the first one. -/
theorem wall_stops_vehicle :
    Sentinel.create {} "body" Sentinel.mounted = .ok (Sentinel.lookout 3) ∧
      Sentinel.mounted.Built IsNumber ∧
      ∃ early late,
        run { sentinel := Sentinel.lookout 3, bus := .usual, board := .ofNames ["Collision"] }
          [.judge Sentinel.wall ⟨0, ⟨0, 0⟩⟩] = .ok early ∧
        (early.install .tenthOfSecond).run [.judge Sentinel.wall ⟨1, ⟨0, 0⟩⟩,
          .judge Sentinel.wall ⟨2, ⟨0, 0⟩⟩, .round 1] = .ok late ∧
        BrakeMonitor.IsBraking 1 late.board.status := by
  have hbus : Bus.create 256 = .ok .usual := by cbv
  have hcomponent : (StatusBoard.ofNames ["Collision"]).status.components.contains
      BrakeMonitor.component = true := by decide
  have hwall : (Sentinel.lookout 3).markOf Sentinel.wall = .risky := by decide +kernel
  obtain ⟨early, late, hearly, hlate, -, hbraking, -⟩ := status_after_round
    Sentinel.create_lookout Sentinel.built_mounted hbus rfl hcomponent
    [.judge Sentinel.wall ⟨0, ⟨0, 0⟩⟩]
    [.judge Sentinel.wall ⟨1, ⟨0, 0⟩⟩, .judge Sentinel.wall ⟨2, ⟨0, 0⟩⟩] (by decide)
    .tenthOfSecond 1
  refine ⟨Sentinel.create_lookout, Sentinel.built_mounted, early, late, hearly, hlate,
    hbraking ?_⟩
  refine ⟨[.risky], [], ?_, by simp, [], List.replicate 3 .risky, ?_, by decide, by decide⟩
  · simp [marksOf, Deed.mark?, hwall]
  · simp [marksOf, Deed.mark?, hwall]

end Watch

end CollisionWatch
