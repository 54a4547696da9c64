import CollisionWatch.Proofs.Risk.Sensitivity
import CollisionWatch.Proofs.Sentinel.Calls
import Mathlib.Data.List.Forall2

/-!
# More sensitive sentinels

Two sentinels with the same frames are asked about clouds: the second one has thresholds that are at
least as sensitive, and gets all the points of the first one's clouds and perhaps more. Then the
second one is ahead (`Ahead`): its streak is never the shorter one. Being ahead survives every call,
a cloud that cannot be placed and a discarded streak as well as a verdict (`Ahead.judge`,
`Ahead.discard`), so over whole runs the two fail alike, and wherever the first one announces a
collision the second one does too (`sensitivity_monotone`).
-/

namespace CollisionWatch

open Double (IsNumber)

namespace Streak

/-- A streak stays the longer one if its cloud is risky wherever the other one's is. -/
theorem count_record_le {s t : Streak} (hcount : s.count ≤ t.count) {risky riskier : Bool}
    (hrisky : risky = true → riskier = true) :
    (s.record risky).count ≤ (t.record riskier).count := by
  cases risky with
  | false => exact UInt32.zero_le
  | true =>
    rw [hrisky rfl, UInt32.le_iff_toNat_le, toNat_count_record_true, toNat_count_record_true]
    rw [UInt32.le_iff_toNat_le] at hcount
    omega

/-- A decision does not change the threshold. -/
theorem threshold_record (s : Streak) (risky : Bool) :
    (s.record risky).threshold = s.threshold := by
  cases risky <;> rfl

end Streak

namespace Sentinel

/-! ## Denser calls -/

/-- The second call asks about a cloud of the same frame and time that has all the points of the
first one's, or both discard the streak. -/
inductive Call.Denser : Call → Call → Prop where
  /-- A cloud with more points, in any order. -/
  | judge {cloud denser : Cloud} (bus bus' : Bus) (stamp stamp' : Stamp) :
      cloud.frame = denser.frame → cloud.time = denser.time →
      cloud.points.Subperm denser.points →
      Call.Denser (.judge cloud bus stamp) (.judge denser bus' stamp')
  /-- A discarded streak. -/
  | discard (lost lost' : UInt64) : Call.Denser (.discard lost) (.discard lost')

/-- Both answers are the same fault, or both are verdicts and the second one announces a collision
if the first one does. -/
inductive NoLess : Except Fault Verdict → Except Fault Verdict → Prop where
  /-- The same fault. -/
  | fault (fault : Fault) : NoLess (.error fault) (.error fault)
  /-- No collision is left out. -/
  | verdict {v w : Verdict} : (v.collision = true → w.collision = true) → NoLess (.ok v) (.ok w)

/-! ## One call -/

/-- The sentinel `t` has the same frames as `s`, is at least as sensitive and has the longer
streak. -/
structure Ahead (s t : Sentinel) : Prop where
  /-- The frame of the vehicle is the same. -/
  vehicle : s.vehicle = t.vehicle
  /-- The tree is the same. -/
  tree : s.tree = t.tree
  /-- All stamps in the tree are numbers. -/
  built : s.tree.Built IsNumber
  /-- The thresholds are at least as sensitive. -/
  sensitive : t.thresholds.AtLeastAsSensitive s.thresholds
  /-- Both ask for a dangerous point. -/
  minPoints : s.thresholds.minPoints ≠ 0 ∧ t.thresholds.minPoints ≠ 0
  /-- At most as many risky clouds make a collision. -/
  threshold : t.streak.threshold ≤ s.streak.threshold
  /-- The streak is at least as long. -/
  count : s.streak.count ≤ t.streak.count

namespace Ahead

variable {s t : Sentinel}

/-- A new sentinel with more sensitive thresholds is ahead. -/
theorem of_create {thresholds sharper : Thresholds} {vehicle : String}
    {tree : FrameTree (Pose Float32)} (hs : Sentinel.create thresholds vehicle tree = .ok s)
    (ht : Sentinel.create sharper vehicle tree = .ok t) (htree : tree.Built IsNumber)
    (hsensitive : sharper.AtLeastAsSensitive thresholds) : Ahead s t := by
  obtain ⟨hvalidate, rfl⟩ := eq_of_create hs
  obtain ⟨hvalidate', rfl⟩ := eq_of_create ht
  have hminPoints := ((Thresholds.validate_eq_ok_iff _).1 hvalidate).minPoints
  have hminPoints' := ((Thresholds.validate_eq_ok_iff _).1 hvalidate').minPoints
  exact ⟨rfl, rfl, htree, hsensitive, ⟨hminPoints, hminPoints'⟩, hsensitive.minFrames,
    UInt32.le_refl _⟩

/-- The totals do not matter. -/
theorem withStats (h : Ahead s t) (stats stats' : Stats) :
    Ahead { s with stats } { t with stats := stats' } :=
  ⟨h.vehicle, h.tree, h.built, h.sensitive, h.minPoints, h.threshold, h.count⟩

/-- A decision, risky if the other one's is. -/
theorem decide (h : Ahead s t) {risky riskier : Bool} (hrisky : risky = true → riskier = true) :
    Ahead (s.decide risky) (t.decide riskier) := by
  refine ⟨h.vehicle, h.tree, h.built, h.sensitive, h.minPoints, ?_, ?_⟩
  · change (t.streak.record riskier).threshold ≤ (s.streak.record risky).threshold
    rw [Streak.threshold_record, Streak.threshold_record]
    exact h.threshold
  · exact Streak.count_record_le h.count hrisky

/-- Publishing the verdicts. -/
theorem announce (h : Ahead s t) (bus bus' : Bus) (stamp stamp' : Stamp) :
    Ahead (s.announce bus stamp).sentinel (t.announce bus' stamp').sentinel := by
  rw [sentinel_announce, sentinel_announce]
  exact h.withStats _ _

/-- A streak that is long enough by the higher threshold is long enough. -/
theorem isPersistent (h : Ahead s t) (hs : s.streak.isPersistent = true) :
    t.streak.isPersistent = true := by
  unfold Streak.isPersistent at hs ⊢
  rw [decide_eq_true_iff] at hs ⊢
  exact UInt32.le_trans h.threshold (UInt32.le_trans hs h.count)

/-- **Judging a cloud and a denser one.** -/
theorem judge (h : Ahead s t) {cloud denser : Cloud}
    (hframe : cloud.frame = denser.frame) (htime : cloud.time = denser.time)
    (hpoints : cloud.points.Subperm denser.points) (bus bus' : Bus) (stamp stamp' : Stamp) :
    ∃ outcome outcome', s.process cloud bus stamp = .ok outcome ∧
      t.process denser bus' stamp' = .ok outcome' ∧
      Ahead outcome.sentinel outcome'.sentinel ∧ NoLess outcome.result outcome'.result := by
  rcases exists_placement s.vehicle h.built cloud.time cloud.frame with
    ⟨-, notice, hplacement⟩ | ⟨-, pose, -, hplacement⟩
  · have hprocess := (hplacement s cloud rfl rfl rfl rfl).2 bus stamp
    have hprocess' :=
      (hplacement t denser h.vehicle.symm h.tree.symm htime.symm hframe.symm).2 bus' stamp'
    exact ⟨_, _, hprocess, hprocess', h.withStats _ _, .fault _⟩
  · have hprocess := (hplacement s cloud rfl rfl rfl rfl).2 bus stamp
    have hprocess' :=
      (hplacement t denser h.vehicle.symm h.tree.symm htime.symm hframe.symm).2 bus' stamp'
    have hrisky : s.thresholds.isRisky cloud pose = true →
        t.thresholds.isRisky denser pose = true :=
      h.sensitive.isRisky h.minPoints.2 h.minPoints.1 hpoints
    have hdecided := h.decide hrisky
    refine ⟨_, _, hprocess, hprocess', hdecided.announce bus bus' stamp stamp', ?_⟩
    rw [result_announce, result_announce]
    exact .verdict hdecided.isPersistent

/-- Discarding both streaks. -/
theorem discard (h : Ahead s t) {lost lost' : UInt64} {s' t' : Sentinel}
    {notices notices' : List Notice} (hs : s.discardStreak lost = .ok (s', notices))
    (ht : t.discardStreak lost' = .ok (t', notices')) : Ahead s' t' := by
  rw [discardStreak_eq_ok (lost_lt_of_discardStreak hs)] at hs
  rw [discardStreak_eq_ok (lost_lt_of_discardStreak ht)] at ht
  obtain ⟨rfl, -⟩ := Prod.mk.inj (Except.ok.inj hs)
  obtain ⟨rfl, -⟩ := Prod.mk.inj (Except.ok.inj ht)
  exact ⟨h.vehicle, h.tree, h.built, h.sensitive, h.minPoints, h.threshold, UInt32.le_refl _⟩

/-- **A call and a denser one.** -/
theorem answer (h : Ahead s t) {answers answers' : List (Except Fault Verdict)}
    (hanswers : List.Forall₂ NoLess answers answers') {call call' : Call}
    (hcall : call.Denser call') {next next' : Sentinel × List (Except Fault Verdict)}
    (hs : Sentinel.answer (s, answers) call = .ok next)
    (ht : Sentinel.answer (t, answers') call' = .ok next') :
    Ahead next.1 next'.1 ∧ List.Forall₂ NoLess next.2 next'.2 := by
  cases hcall with
  | judge bus bus' stamp stamp' hframe htime hpoints =>
    obtain ⟨outcome, outcome', hprocess, hprocess', hahead, hnoLess⟩ :=
      h.judge hframe htime hpoints bus bus' stamp stamp'
    rw [answer_judge, hprocess] at hs
    rw [answer_judge, hprocess'] at ht
    obtain rfl := Except.ok.inj hs
    obtain rfl := Except.ok.inj ht
    exact ⟨hahead, List.rel_append hanswers (.cons hnoLess .nil)⟩
  | discard lost lost' =>
    rw [answer_discard] at hs ht
    obtain ⟨told, hdiscard, rfl⟩ := exists_of_map_eq_ok hs
    obtain ⟨told', hdiscard', rfl⟩ := exists_of_map_eq_ok ht
    exact ⟨h.discard hdiscard hdiscard', hanswers⟩

/-- Some calls and denser ones. -/
theorem foldlM_answer {calls calls' : List Call} (hcalls : List.Forall₂ Call.Denser calls calls')
    (h : Ahead s t) {answers answers' : List (Except Fault Verdict)}
    (hanswers : List.Forall₂ NoLess answers answers')
    {last last' : Sentinel × List (Except Fault Verdict)}
    (hs : calls.foldlM Sentinel.answer (s, answers) = .ok last)
    (ht : calls'.foldlM Sentinel.answer (t, answers') = .ok last') :
    Ahead last.1 last'.1 ∧ List.Forall₂ NoLess last.2 last'.2 := by
  induction hcalls generalizing s t answers answers' with
  | nil =>
    obtain rfl := Except.ok.inj hs
    obtain rfl := Except.ok.inj ht
    exact ⟨h, hanswers⟩
  | cons hcall _ ih =>
    obtain ⟨next, hnext, hs⟩ := exists_of_foldlM_cons hs
    obtain ⟨next', hnext', ht⟩ := exists_of_foldlM_cons ht
    obtain ⟨hahead, hanswers⟩ := h.answer hanswers hcall hnext hnext'
    exact ih hahead hanswers hs ht

end Ahead

/-! ## Runs -/

/-- **Over whole runs a more sensitive sentinel that sees more points fails where the other one
fails, announces a collision wherever the other one does, and never has the shorter streak.** Every
beginning of a run is a run, so this is so after every call. -/
theorem sensitivity_monotone {thresholds sharper : Thresholds} {vehicle : String}
    {tree : FrameTree (Pose Float32)} {s t : Sentinel}
    (hs : Sentinel.create thresholds vehicle tree = .ok s)
    (ht : Sentinel.create sharper vehicle tree = .ok t) (htree : tree.Built IsNumber)
    (hsensitive : sharper.AtLeastAsSensitive thresholds) {calls calls' : List Call}
    (hcalls : List.Forall₂ Call.Denser calls calls') :
    ((∃ last, s.answerAll calls = .ok last) ↔ Call.lostTotal calls < UInt64.size) ∧
      ((∃ last, t.answerAll calls' = .ok last) ↔ Call.lostTotal calls' < UInt64.size) ∧
      ∀ s' answers t' answers', s.answerAll calls = .ok (s', answers) →
        t.answerAll calls' = .ok (t', answers') →
        List.Forall₂ NoLess answers answers' ∧ s'.streak.count ≤ t'.streak.count := by
  have hnew := isNew_of_create hs
  have hnew' := isNew_of_create ht
  refine ⟨exists_answerAll_iff hnew htree, exists_answerAll_iff hnew' htree, ?_⟩
  intro s' answers t' answers' hanswers hanswers'
  have hstart := Ahead.of_create hs ht htree hsensitive
  obtain ⟨hahead, hnoLess⟩ := hstart.foldlM_answer hcalls .nil hanswers hanswers'
  exact ⟨hnoLess, hahead.count⟩

/-- The wall, and a bird above it. -/
def wallAndBird : Cloud := ⟨"lidar", 0, ⟨0, 5, 9⟩ :: wall.points⟩

/-- A wall is seen once, then clouds are lost, then it is seen again. -/
def glances (cloud : Cloud) (lost : UInt64) : List Call :=
  [.judge cloud .usual ⟨0, ⟨0, 0⟩⟩, .discard lost, .judge cloud .usual ⟨1, ⟨0, 0⟩⟩,
    .judge cloud .usual ⟨2, ⟨0, 0⟩⟩]

/-- A sentinel that needs two risky clouds in a row, next to one that needs three. -/
theorem sensitivity_lookout :
    Sentinel.create {} "body" mounted = .ok (lookout 3) ∧
      Sentinel.create { minFrames := 2 } "body" mounted = .ok (lookout 2) ∧
      mounted.Built IsNumber ∧ Thresholds.AtLeastAsSensitive { minFrames := 2 } {} ∧
      List.Forall₂ Call.Denser (glances wall 1) (glances wallAndBird 4) ∧
      ∃ s answers t answers', (lookout 3).answerAll (glances wall 1) = .ok (s, answers) ∧
        (lookout 2).answerAll (glances wallAndBird 4) = .ok (t, answers') ∧
        List.Forall₂ NoLess answers answers' ∧ s.streak.count ≤ t.streak.count := by
  have hsharper : Sentinel.create { minFrames := 2 } "body" mounted = .ok (lookout 2) := rfl
  have hsensitive : Thresholds.AtLeastAsSensitive { minFrames := 2 } {} := by
    refine ⟨⟨?_, ?_, ?_⟩, ?_, ?_, ⟨?_, ?_, ?_⟩, ?_, ?_⟩ <;> decide +kernel
  have hpoints : wall.points.Subperm wallAndBird.points :=
    (List.sublist_cons_self _ _).subperm
  have hcalls : List.Forall₂ Call.Denser (glances wall 1) (glances wallAndBird 4) :=
    .cons (.judge _ _ _ _ rfl rfl hpoints) (.cons (.discard _ _)
      (.cons (.judge _ _ _ _ rfl rfl hpoints) (.cons (.judge _ _ _ _ rfl rfl hpoints) .nil)))
  obtain ⟨hrun, hrun', hmonotone⟩ :=
    sensitivity_monotone create_lookout hsharper built_mounted hsensitive hcalls
  obtain ⟨⟨s, answers⟩, hs⟩ := hrun.2 (by decide)
  obtain ⟨⟨t, answers'⟩, ht⟩ := hrun'.2 (by decide)
  exact ⟨create_lookout, hsharper, built_mounted, hsensitive, hcalls, s, answers, t, answers', hs,
    ht, hmonotone s answers t answers' hs ht⟩

end Sentinel

end CollisionWatch
