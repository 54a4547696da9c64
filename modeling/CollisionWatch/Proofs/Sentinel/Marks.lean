import CollisionWatch.Proofs.FrameTree.Shortest
import CollisionWatch.Sentinel.Basic
import Mathlib.Data.List.Induction

/-!
# What a sentinel makes of the clouds

A sentinel leaves one mark for everything that comes its way (`Mark`). The mark of a cloud depends
on the cloud, the frames and the thresholds alone (`Sentinel.markOf`), and never on the streak. A
collision is a property of the marks: they end in a segment that holds enough risky clouds and
neither a clear one nor a gap (`Sustained`). The streak counts just that, as far as its word reaches
(`Streak.Counts`), so a sentinel that has followed the marks announces a collision exactly if they
end in such a segment (`Sentinel.Follows.isPersistent_iff`).
-/

namespace CollisionWatch

open Double (IsNumber)

/-- What became of one thing on its way to a sentinel. -/
inductive Mark where
  /-- A cloud that is risky. -/
  | risky
  /-- A cloud that is not. -/
  | clear
  /-- A cloud that cannot be taken into the vehicle's frame. -/
  | unplaced
  /-- Something that is no cloud. -/
  | stray
  /-- Something that got lost. -/
  | gap
  deriving Repr, DecidableEq

/-- The mark of a cloud by the decision on it. -/
def Mark.ofDecision (risky : Bool) : Mark := if risky then .risky else .clear

/-- The marks end in a segment with this many risky clouds, without a clear one or a gap. -/
def Sustained (n : Nat) (marks : List Mark) : Prop :=
  ∃ before segment, marks = before ++ segment ∧ (∀ mark ∈ segment, mark ≠ .clear ∧ mark ≠ .gap) ∧
    n ≤ segment.count .risky

/-! ## The risky clouds in a row -/

/-- How many risky clouds there are in a row after one more mark. -/
def Mark.extend (run : Nat) : Mark → Nat
  | risky => run + 1
  | clear | gap => 0
  | unplaced | stray => run

/-- How many risky clouds there are in a row at the end of the marks. -/
def riskyRun (marks : List Mark) : Nat := marks.foldl Mark.extend 0

/-- The run after one more mark. -/
theorem riskyRun_append_singleton (marks : List Mark) (mark : Mark) :
    riskyRun (marks ++ [mark]) = mark.extend (riskyRun marks) := by
  rw [riskyRun, List.foldl_append]
  rfl

/-- No risky cloud is needed for nothing. -/
theorem sustained_zero (marks : List Mark) : Sustained 0 marks :=
  ⟨marks, [], by simp, by simp, Nat.zero_le _⟩

/-- A mark that breaks the streak leaves no segment. -/
theorem Sustained.eq_zero {n : Nat} {marks : List Mark} {mark : Mark}
    (h : Sustained n (marks ++ [mark])) (hmark : mark = .clear ∨ mark = .gap) : n = 0 := by
  obtain ⟨before, segment, heq, hall, hle⟩ := h
  rcases List.eq_nil_or_concat segment with rfl | ⟨init, last, rfl⟩
  · simpa using hle
  · rw [List.concat_eq_append, ← List.append_assoc] at heq
    obtain ⟨-, hlast⟩ := List.append_inj' heq rfl
    obtain rfl := List.singleton_inj.1 hlast
    have hne := hall mark (by simp)
    rcases hmark with rfl | rfl
    · exact absurd rfl hne.1
    · exact absurd rfl hne.2

/-- A segment that goes on with a mark that does not break it. -/
theorem sustained_append_singleton_iff {n : Nat} {marks : List Mark} {mark : Mark}
    (hmark : mark ≠ .clear ∧ mark ≠ .gap) :
    Sustained n (marks ++ [mark]) ↔ Sustained (n - [mark].count .risky) marks := by
  constructor
  · rintro ⟨before, segment, heq, hall, hle⟩
    rcases List.eq_nil_or_concat segment with rfl | ⟨init, last, rfl⟩
    · obtain rfl : n = 0 := by simpa using hle
      rw [Nat.zero_sub]
      exact sustained_zero marks
    · rw [List.concat_eq_append] at heq hall hle
      rw [← List.append_assoc] at heq
      obtain ⟨rfl, hlast⟩ := List.append_inj' heq rfl
      rw [← hlast, List.count_append] at hle
      exact ⟨before, init, rfl, fun m hm => hall m (List.mem_append_left _ hm), by omega⟩
  · rintro ⟨before, segment, rfl, hall, hle⟩
    refine ⟨before, segment ++ [mark], by rw [List.append_assoc], fun m hm => ?_, ?_⟩
    · rcases List.mem_append.1 hm with hm | hm
      · exact hall m hm
      · obtain rfl := List.mem_singleton.1 hm
        exact hmark
    · rw [List.count_append]
      omega

/-- **A streak is sustained exactly if the run at its end is long enough.** -/
theorem sustained_iff_le_riskyRun (n : Nat) (marks : List Mark) :
    Sustained n marks ↔ n ≤ riskyRun marks := by
  induction marks using List.reverseRecOn generalizing n with
  | nil =>
    refine ⟨?_, fun hle => ?_⟩
    · rintro ⟨before, segment, heq, -, hle⟩
      obtain ⟨rfl, rfl⟩ := List.append_eq_nil_iff.1 heq.symm
      simpa [riskyRun] using hle
    · obtain rfl : n = 0 := by simpa [riskyRun] using hle
      exact sustained_zero []
  | append_singleton marks mark ih =>
    rw [riskyRun_append_singleton]
    -- A mark that breaks the streak leaves no segment but the empty one.
    have hbreak : mark = .clear ∨ mark = .gap →
        (Sustained n (marks ++ [mark]) ↔ n ≤ 0) := fun hmark => by
      refine ⟨fun h => (h.eq_zero hmark).le, fun hle => ?_⟩
      obtain rfl : n = 0 := by omega
      exact sustained_zero _
    cases mark with
    | clear => exact hbreak (.inl rfl)
    | gap => exact hbreak (.inr rfl)
    | risky =>
      rw [sustained_append_singleton_iff (by decide), ih]
      simp [Mark.extend]
    | unplaced =>
      rw [sustained_append_singleton_iff (by decide), ih]
      simp [Mark.extend]
    | stray =>
      rw [sustained_append_singleton_iff (by decide), ih]
      simp [Mark.extend]

/-! ## The streak -/

/-- The count of a streak is the run at the end of the marks, as far as a word reaches. -/
def Streak.Counts (s : Streak) (marks : List Mark) : Prop :=
  s.count.toNat = min (riskyRun marks) Streak.most.toNat

/-- A decision is counted. -/
theorem Streak.Counts.record {s : Streak} {marks : List Mark} (h : s.Counts marks) (risky : Bool) :
    (s.record risky).Counts (marks ++ [.ofDecision risky]) := by
  unfold Counts at h ⊢
  rw [riskyRun_append_singleton]
  cases risky with
  | true =>
    rw [toNat_count_record_true, h]
    change min _ _ = min (riskyRun marks + 1) _
    omega
  | false => rfl

/-- A reset counts as a gap. -/
theorem Streak.Counts.reset (s : Streak) (marks : List Mark) :
    s.reset.Counts (marks ++ [.gap]) := by
  unfold Counts
  rw [riskyRun_append_singleton]
  rfl

/-- **The risk is persistent exactly if the marks end in a segment with enough risky clouds.** -/
theorem Streak.Counts.isPersistent_iff {s : Streak} {marks : List Mark} (h : s.Counts marks) :
    s.isPersistent = true ↔ Sustained s.threshold.toNat marks := by
  have hmost : s.threshold.toNat ≤ Streak.most.toNat := Nat.le_of_lt_succ s.threshold.toNat_lt
  rw [sustained_iff_le_riskyRun, isPersistent, decide_eq_true_iff, UInt32.le_iff_toNat_le, h]
  omega

namespace Sentinel

/-! ## The sentinel -/

/-- The mark of a cloud: whether it can be placed, and if so whether it is risky. -/
def markOf (s : Sentinel) (cloud : Cloud) : Mark :=
  if cloud.time.isFinite then
    match s.tree.resolve cloud.time s.vehicle cloud.frame with
    | .ok (.ok pose) => .ofDecision (s.thresholds.isRisky cloud pose)
    | _ => .unplaced
  else .unplaced

/-- What a sentinel does with a cloud depends on the time and the frame of the cloud. If the time is
none, or no motion takes the cloud into the vehicle's frame then, it gives the cloud up; otherwise it
places the cloud and decides on it. -/
theorem exists_placement (vehicle : String) {tree : FrameTree (Pose Float32)}
    (htree : tree.Built IsNumber) (time : Float) (frame : String) :
    ((time.isFinite = false ∨ tree.lookup time vehicle frame = .ok none) ∧
      ∃ notice, ∀ (s : Sentinel) (cloud : Cloud),
        s.vehicle = vehicle → s.tree = tree → cloud.time = time → cloud.frame = frame →
          s.markOf cloud = .unplaced ∧ ∀ bus stamp, s.process cloud bus stamp =
            .ok (s.giveUp (.unresolved time vehicle frame) bus notice)) ∨
    time.isFinite = true ∧ ∃ pose, tree.lookup time vehicle frame = .ok (some pose) ∧
      ∀ (s : Sentinel) (cloud : Cloud),
        s.vehicle = vehicle → s.tree = tree → cloud.time = time → cloud.frame = frame →
          s.markOf cloud = .ofDecision (s.thresholds.isRisky cloud pose) ∧
            ∀ bus stamp, s.process cloud bus stamp =
              .ok ((s.decide (s.thresholds.isRisky cloud pose)).announce bus stamp) := by
  unfold markOf process
  by_cases hfinite : time.isFinite = true
  · obtain ⟨placed, hlookup⟩ := htree.exists_lookup_eq_ok time vehicle frame
    have hresolve := FrameTree.resolve_of_lookup hlookup
    cases placed with
    | none =>
      refine .inl ⟨.inr hlookup, .transformMissing, ?_⟩
      rintro s cloud rfl rfl rfl rfl
      simp only [hfinite, hresolve]
      exact ⟨rfl, fun _ _ => rfl⟩
    | some pose =>
      refine .inr ⟨hfinite, pose, hlookup, ?_⟩
      rintro s cloud rfl rfl rfl rfl
      simp only [hfinite, hresolve]
      exact ⟨rfl, fun _ _ => rfl⟩
  · rw [Bool.not_eq_true] at hfinite
    refine .inl ⟨.inl hfinite, .captureTimeInvalid, ?_⟩
    rintro s cloud rfl rfl rfl rfl
    simp only [hfinite]
    exact ⟨rfl, fun _ _ => rfl⟩

/-- The mark of a cloud says how it is processed. -/
theorem process_cases {s : Sentinel} (htree : s.tree.Built IsNumber) (cloud : Cloud) (bus : Bus)
    (stamp : Stamp) :
    (s.markOf cloud = .unplaced ∧
      ∃ fault notice, s.process cloud bus stamp = .ok (s.giveUp fault bus notice)) ∨
    ∃ risky, s.markOf cloud = .ofDecision risky ∧
      s.process cloud bus stamp = .ok ((s.decide risky).announce bus stamp) := by
  rcases exists_placement s.vehicle htree cloud.time cloud.frame with
    ⟨-, notice, hplacement⟩ | ⟨-, pose, -, hplacement⟩
  · obtain ⟨hmark, hprocess⟩ := hplacement s cloud rfl rfl rfl rfl
    exact .inl ⟨hmark, _, notice, hprocess bus stamp⟩
  · obtain ⟨hmark, hprocess⟩ := hplacement s cloud rfl rfl rfl rfl
    exact .inr ⟨_, hmark, hprocess bus stamp⟩

/-- Announcing changes nothing but the number of verdicts that reached nobody. -/
theorem sentinel_announce (s : Sentinel) (bus : Bus) (stamp : Stamp) :
    (s.announce bus stamp).sentinel = { s with stats := { s.stats with
      undelivered :=
        if bus.verdicts.listeners = 0 then s.stats.undelivered + 1 else s.stats.undelivered } } := by
  unfold announce Bus.publish
  by_cases hlisteners : bus.verdicts.listeners = 0
  · simp only [Bus.channel, hlisteners, if_true]
  · simp only [Bus.channel, hlisteners, if_false]

/-- Totals that fit into a word together are added as numbers are. -/
theorem toNat_add_of_lt {a b : UInt64} (h : a.toNat + b.toNat < UInt64.size) :
    (a + b).toNat = a.toNat + b.toNat :=
  (UInt64.toNat_add a b).trans (Nat.mod_eq_of_lt h)

/-- A gap is told as long as the total of lost clouds fits into its word. -/
theorem discardStreak_eq_ok {s : Sentinel} {lost : UInt64}
    (h : s.stats.lost.toNat + lost.toNat < UInt64.size) :
    s.discardStreak lost =
      .ok ({ s with
          streak := s.streak.reset
          stats := { s.stats with lost := s.stats.lost + lost } },
        if 0 < s.streak.count then [.streakDiscarded] else []) :=
  if_neg (Nat.not_le.2 h)

/-- A gap that was told fits into its word. -/
theorem lost_lt_of_discardStreak {s : Sentinel} {lost : UInt64} {told : Sentinel × List Notice}
    (h : s.discardStreak lost = .ok told) : s.stats.lost.toNat + lost.toNat < UInt64.size := by
  by_contra hle
  rw [discardStreak, if_pos (Nat.not_lt.1 hle)] at h
  cases h

/-- The sentinel judges as another one does, and has followed these marks since. -/
structure Follows (s₀ : Sentinel) (marks : List Mark) (s : Sentinel) : Prop where
  /-- The frame of the vehicle is the same. -/
  vehicle : s.vehicle = s₀.vehicle
  /-- The thresholds are the same. -/
  thresholds : s.thresholds = s₀.thresholds
  /-- The tree is the same. -/
  tree : s.tree = s₀.tree
  /-- As many risky clouds in a row make a collision. -/
  threshold : s.streak.threshold = s₀.streak.threshold
  /-- The streak counts the marks. -/
  counts : s.streak.Counts marks

namespace Follows

variable {s₀ s : Sentinel} {marks : List Mark}

/-- A new sentinel has followed no marks. -/
theorem refl (s : Sentinel) (h : s.streak.count = 0) : Follows s [] s :=
  ⟨rfl, rfl, rfl, rfl, by rw [Streak.Counts, h]; rfl⟩

/-- The same clouds get the same marks. -/
theorem markOf_eq (h : Follows s₀ marks s) (cloud : Cloud) : s.markOf cloud = s₀.markOf cloud := by
  rw [markOf, h.vehicle, h.thresholds, h.tree, ← markOf]

/-- **A collision is announced exactly if the marks end in a segment with enough risky clouds.** -/
theorem isPersistent_iff (h : Follows s₀ marks s) :
    s.streak.isPersistent = true ↔ Sustained s₀.streak.threshold.toNat marks := by
  rw [h.counts.isPersistent_iff, h.threshold]

/-- Other totals change nothing. -/
theorem withStats (h : Follows s₀ marks s) (stats : Stats) :
    Follows s₀ marks { s with stats } :=
  ⟨h.vehicle, h.thresholds, h.tree, h.threshold, h.counts⟩

/-- A mark that does not touch the streak. -/
theorem idle (h : Follows s₀ marks s) {mark : Mark} (hmark : mark = .unplaced ∨ mark = .stray) :
    Follows s₀ (marks ++ [mark]) s := by
  refine ⟨h.vehicle, h.thresholds, h.tree, h.threshold, ?_⟩
  rw [Streak.Counts, riskyRun_append_singleton, h.counts]
  rcases hmark with rfl | rfl <;> rfl

/-- A decision on a cloud. -/
theorem decide (h : Follows s₀ marks s) (risky : Bool) :
    Follows s₀ (marks ++ [.ofDecision risky]) (s.decide risky) := by
  refine ⟨h.vehicle, h.thresholds, h.tree, ?_, h.counts.record risky⟩
  rw [← h.threshold]
  cases risky <;> rfl

/-- A gap. What came before it does not matter any more. -/
theorem reset (h : Follows s₀ marks s) (earlier : List Mark) :
    Follows s₀ (earlier ++ [.gap]) { s with streak := s.streak.reset } :=
  ⟨h.vehicle, h.thresholds, h.tree, h.threshold, .reset s.streak earlier⟩

/-- Publishing the verdict. -/
theorem announce (h : Follows s₀ marks s) (bus : Bus) (stamp : Stamp) :
    Follows s₀ marks (s.announce bus stamp).sentinel := by
  rw [sentinel_announce]
  exact h.withStats _

end Follows

end Sentinel

end CollisionWatch
