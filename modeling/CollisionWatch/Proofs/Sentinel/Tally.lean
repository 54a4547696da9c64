import CollisionWatch.Proofs.Sentinel.Verdicts

/-!
# What a sentinel counts

The totals of a sentinel count the marks that it has followed (`Sentinel.Tallies`): a risky or clear
mark is a cloud that got a verdict, an unplaced one a cloud that was given up, a gap a lost cloud.
The totals are words, so this holds as long as there are fewer marks than a word can count. Clouds
and gaps never make a sentinel crash then (`Follows.exists_process`, `Tallies.exists_discard`).
-/

namespace CollisionWatch

open Double (IsNumber)

/-- The mark belongs to a cloud that got a verdict. -/
def Mark.isDecided (mark : Mark) : Bool := mark = .risky || mark = .clear

/-- The mark of a decision says that there was one. -/
theorem Mark.isDecided_ofDecision (risky : Bool) : (Mark.ofDecision risky).isDecided = true := by
  cases risky <;> rfl

namespace Sentinel

/-- The totals of a sentinel count the marks. -/
structure Tallies (marks : List Mark) (s : Sentinel) : Prop where
  /-- Clouds with a verdict. -/
  evaluated : s.stats.evaluated.toNat = marks.countP Mark.isDecided
  /-- Clouds that were given up. -/
  unresolved : s.stats.unresolved.toNat = marks.count .unplaced
  /-- Clouds that never came. -/
  lost : s.stats.lost.toNat = marks.count .gap

namespace Tallies

variable {s₀ s : Sentinel} {marks : List Mark}

/-- Nothing is tallied before anything has happened. -/
theorem refl {s : Sentinel} (h : s.stats = {}) : Tallies [] s := by
  refine ⟨?_, ?_, ?_⟩ <;> rw [h] <;> rfl

/-- What is no cloud is not counted. -/
theorem stray (h : Tallies marks s) : Tallies (marks ++ [.stray]) s := by
  refine ⟨?_, ?_, ?_⟩
  · simpa [Mark.isDecided] using h.evaluated
  · simpa using h.unresolved
  · simpa using h.lost

/-- A cloud that is given up is counted. -/
theorem giveUp (h : Tallies marks s) (hfew : marks.length + 1 < UInt64.size) (fault : Fault)
    (bus : Bus) (notice : Notice) :
    Tallies (marks ++ [.unplaced]) (s.giveUp fault bus notice).sentinel := by
  have hle : s.stats.unresolved.toNat ≤ marks.length := h.unresolved ▸ List.count_le_length
  refine ⟨?_, ?_, ?_⟩
  · simpa [Mark.isDecided, Sentinel.giveUp] using h.evaluated
  · rw [List.count_append, ← h.unresolved]
    exact toNat_add_of_lt (Nat.lt_of_le_of_lt (Nat.add_le_add_right hle 1) hfew)
  · simpa [Sentinel.giveUp] using h.lost

/-- A cloud that gets a verdict is counted. -/
theorem decide (h : Tallies marks s) (hfew : marks.length + 1 < UInt64.size) (risky : Bool)
    (bus : Bus) (stamp : Stamp) :
    Tallies (marks ++ [.ofDecision risky]) ((s.decide risky).announce bus stamp).sentinel := by
  have hle : s.stats.evaluated.toNat ≤ marks.length := h.evaluated ▸ List.countP_le_length
  have hevaluated : ((s.decide risky).announce bus stamp).sentinel.stats.evaluated =
      s.stats.evaluated + 1 := by
    rw [sentinel_announce]
    rfl
  have hunresolved : ((s.decide risky).announce bus stamp).sentinel.stats.unresolved =
      s.stats.unresolved := by
    rw [sentinel_announce]
    rfl
  refine ⟨?_, ?_, ?_⟩
  · rw [hevaluated, toNat_add_of_lt (Nat.lt_of_le_of_lt (Nat.add_le_add_right hle 1) hfew),
      h.evaluated, List.countP_append, List.countP_singleton,
      if_pos (Mark.isDecided_ofDecision risky)]
    rfl
  · rw [hunresolved, h.unresolved, List.count_append]
    cases risky <;> rfl
  · rw [lost_announce, List.count_append, ← h.lost]
    cases risky <;> rfl

/-- A gap is counted. -/
theorem discard (h : Tallies marks s) {lost : Nat} (hfew : marks.length + lost < UInt64.size)
    {s' : Sentinel} {notices : List Notice}
    (hdiscard : s.discardStreak lost.toUInt64 = .ok (s', notices)) :
    Tallies (marks ++ List.replicate lost .gap) s' := by
  have hlost : lost.toUInt64.toNat = lost := UInt64.toNat_ofNat_of_lt (by omega)
  have hle : s.stats.lost.toNat ≤ marks.length := h.lost ▸ List.count_le_length
  have htotal : s.stats.lost.toNat + lost.toUInt64.toNat < UInt64.size := by omega
  rw [discardStreak_eq_ok htotal] at hdiscard
  obtain ⟨rfl, -⟩ := Prod.mk.inj (Except.ok.inj hdiscard)
  refine ⟨?_, ?_, ?_⟩
  · simpa [Mark.isDecided, List.countP_replicate] using h.evaluated
  · simpa [List.count_replicate] using h.unresolved
  · rw [List.count_append, List.count_replicate_self, ← h.lost, toNat_add_of_lt htotal, hlost]

/-- A gap can be counted while there are few enough marks. -/
theorem exists_discard (h : Tallies marks s) {lost : Nat}
    (hfew : marks.length + lost < UInt64.size) :
    ∃ s' notices, s.discardStreak lost.toUInt64 = .ok (s', notices) := by
  have hlost : lost.toUInt64.toNat = lost := UInt64.toNat_ofNat_of_lt (by omega)
  have hle : s.stats.lost.toNat ≤ marks.length := h.lost ▸ List.count_le_length
  exact ⟨_, _, discardStreak_eq_ok (by omega)⟩

end Tallies

namespace Follows

variable {s₀ s : Sentinel} {marks : List Mark}

/-- **A cloud is processed and followed, whatever the cloud, and counted.** -/
theorem exists_process (h : Follows s₀ marks s) (htree : s₀.tree.Built IsNumber) (cloud : Cloud)
    (bus : Bus) (stamp : Stamp) :
    ∃ outcome, s.process cloud bus stamp = .ok outcome ∧
      Follows s₀ (marks ++ [s₀.markOf cloud]) outcome.sentinel ∧
      (Tallies marks s → marks.length + 1 < UInt64.size →
        Tallies (marks ++ [s₀.markOf cloud]) outcome.sentinel) := by
  rw [← h.markOf_eq]
  rcases process_cases (h.tree ▸ htree) cloud bus stamp with
    ⟨hmark, fault, notice, hprocess⟩ | ⟨risky, hmark, hprocess⟩
  · rw [hmark]
    exact ⟨_, hprocess, (h.idle (.inl rfl)).withStats _,
      fun htallies hfew => htallies.giveUp hfew fault bus notice⟩
  · rw [hmark]
    exact ⟨_, hprocess, (h.decide risky).announce bus stamp,
      fun htallies hfew => htallies.decide hfew risky bus stamp⟩

/-- A gap is followed, however many clouds are missing. -/
theorem discard (h : Follows s₀ marks s) {lost : Nat} (hpos : 0 < lost) {s' : Sentinel}
    {notices : List Notice} (hdiscard : s.discardStreak lost.toUInt64 = .ok (s', notices)) :
    Follows s₀ (marks ++ List.replicate lost .gap) s' := by
  rw [discardStreak_eq_ok (lost_lt_of_discardStreak hdiscard)] at hdiscard
  obtain ⟨rfl, -⟩ := Prod.mk.inj (Except.ok.inj hdiscard)
  obtain ⟨k, rfl⟩ : ∃ k, lost = k + 1 := ⟨lost - 1, by omega⟩
  rw [List.replicate_succ', ← List.append_assoc]
  exact (h.reset _).withStats _

/-! ## The verdicts -/

/-- **A verdict is a collision exactly if the marks end in a segment with enough risky clouds, and
it is published as it is.** -/
theorem verdict_iff (h : Follows s₀ marks s) (htree : s₀.tree.Built IsNumber) {cloud : Cloud}
    {bus : Bus} {stamp : Stamp} {outcome : Outcome} {verdict : Verdict}
    (hprocess : s.process cloud bus stamp = .ok outcome)
    (hresult : outcome.result = .ok verdict) :
    outcome.bus = (bus.publish .collisionWarning ⟨stamp, source, .verdict verdict⟩).2 ∧
      (verdict.collision = true ↔
        Sustained s₀.streak.threshold.toNat (marks ++ [s₀.markOf cloud])) := by
  rw [← h.markOf_eq]
  rcases process_cases (h.tree ▸ htree) cloud bus stamp with
    ⟨-, fault, notice, heq⟩ | ⟨risky, hmark, heq⟩
  · obtain rfl := Except.ok.inj (heq.symm.trans hprocess)
    cases hresult
  · obtain rfl := Except.ok.inj (heq.symm.trans hprocess)
    rw [result_announce] at hresult
    obtain rfl := Except.ok.inj hresult
    rw [bus_announce, hmark, ← (h.decide risky).isPersistent_iff]
    exact ⟨rfl, Iff.rfl⟩

end Follows

end Sentinel

end CollisionWatch
