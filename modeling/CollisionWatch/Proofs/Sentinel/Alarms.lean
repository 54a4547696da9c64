import CollisionWatch.Proofs.Sentinel.Accounts

/-!
# Alarms that nobody hears

A sentinel counts a verdict that announces a collision when it makes it, and publishes it
afterwards. So the total says how often there was an alarm and not how often somebody heard one
(`Sentinel.collisions_eq_heard_iff`): the two are the same exactly if somebody listened to every
alarm, and a single alarm that nobody hears tells them apart (`Sentinel.alarm_unheard`).
-/

namespace CollisionWatch

open Double (IsNumber)

namespace Judgement

/-- The verdict reached somebody. -/
def isHeard (judgement : Judgement) : Bool := judgement.isDecided && judgement.audience != 0

/-- The verdict announces a collision and reached somebody. -/
def isHeardAlarm (judgement : Judgement) : Bool := judgement.isAlarm && judgement.isHeard

/-- The verdict announces a collision and reached nobody. -/
def isUnheardAlarm (judgement : Judgement) : Bool := judgement.isAlarm && judgement.isUnheard

/-- The verdict announces no collision and reached somebody. -/
def isHeardRelief (judgement : Judgement) : Bool := judgement.isHeard && !judgement.isAlarm

/-- An alarm that does not reach somebody reaches nobody. -/
theorem isUnheardAlarm_eq (judgement : Judgement) :
    judgement.isUnheardAlarm = (judgement.isAlarm && !judgement.isHeard) := by
  obtain ⟨audience, answer⟩ := judgement
  cases answer with
  | error fault => rfl
  | ok verdict =>
    unfold isUnheardAlarm isHeard
    rw [bne, Bool.not_and, Bool.not_not]
    rfl

/-! ## Counting -/

variable {judged : List Judgement}

/-- Judgements of one kind have something or lack it. -/
theorem countP_eq_add {kind trait having lacking : Judgement → Bool}
    (hhaving : ∀ j, having j = (kind j && trait j))
    (hlacking : ∀ j, lacking j = (kind j && !trait j)) :
    judged.countP kind = judged.countP having + judged.countP lacking := by
  rw [funext hhaving, funext hlacking, List.countP_eq_countP_filter_add judged kind trait,
    List.countP_filter, List.countP_filter]

/-- Every verdict is heard or not. -/
theorem countP_isDecided :
    judged.countP isDecided = judged.countP isHeard + judged.countP isUnheard := by
  apply countP_eq_add
  · intro j
    rfl
  · intro j
    rw [isUnheard, bne, Bool.not_not]

/-- Every alarm is heard or unheard. -/
theorem countP_isAlarm :
    judged.countP isAlarm = judged.countP isHeardAlarm + judged.countP isUnheardAlarm := by
  apply countP_eq_add
  · intro j
    rfl
  · exact isUnheardAlarm_eq

/-- Every verdict that is heard is an alarm or a relief. -/
theorem countP_isHeard :
    judged.countP isHeard = judged.countP isHeardAlarm + judged.countP isHeardRelief := by
  apply countP_eq_add
  · intro j
    exact Bool.and_comm _ _
  · intro j
    rfl

/-- There are no more unheard alarms than unheard verdicts. -/
theorem countP_isUnheardAlarm_le : judged.countP isUnheardAlarm ≤ judged.countP isUnheard := by
  apply List.countP_mono_left
  intro judgement _ hboth
  exact (Bool.and_eq_true_iff.1 hboth).2

/-- No alarm is unheard exactly if every alarm is heard. -/
theorem countP_isUnheardAlarm_eq_zero_iff :
    judged.countP isUnheardAlarm = 0 ↔ ∀ j ∈ judged, j.isAlarm = true → j.isHeard = true := by
  rw [List.countP_eq_zero]
  apply forall₂_congr
  intro j _
  rw [isUnheardAlarm_eq]
  cases j.isAlarm <;> simp

end Judgement

namespace Sentinel

open Judgement

/-! ## Totals as numbers -/

/-- As long as there are few enough calls a word counts all judgements. -/
theorem toNat_ofNat_countP {calls : List Call} (hfew : calls.length < UInt64.size)
    (answers : List (Except Fault Verdict)) (p : Judgement → Bool) :
    (UInt64.ofNat ((judgements calls answers).countP p)).toNat =
      (judgements calls answers).countP p := by
  have hcalls : (judgements calls answers).length ≤ calls.length := by
    unfold judgements
    rw [List.length_zipWith]
    exact (Nat.min_le_left _ _).trans (List.length_filterMap_le _ _)
  exact UInt64.toNat_ofNat_of_lt' ((List.countP_le_length.trans hcalls).trans_lt hfew)

/-- **The total of collisions counts the alarms that were made.** They are as many as somebody heard
exactly if somebody heard each of them, and never more than the verdicts; and they are no more than
the verdicts that somebody heard exactly if no more alarms went unheard than verdicts were heard that
were none. -/
theorem collisions_eq_heard_iff {thresholds : Thresholds} {vehicle : String}
    {tree : FrameTree (Pose Float32)} {s₀ : Sentinel}
    (hcreate : Sentinel.create thresholds vehicle tree = .ok s₀) (htree : tree.Built IsNumber)
    (calls : List Call) :
    ((∃ last, s₀.answerAll calls = .ok last) ↔ Call.lostTotal calls < UInt64.size) ∧
      ∀ s answers, s₀.answerAll calls = .ok (s, answers) →
        s.stats.collisions = .ofNat ((judgements calls answers).countP isAlarm) ∧
        (calls.length < UInt64.size →
          (s.stats.collisions.toNat = (judgements calls answers).countP isHeardAlarm ↔
            ∀ j ∈ judgements calls answers, j.isAlarm = true → j.isHeard = true) ∧
          s.stats.collisions.toNat ≤ s.stats.evaluated.toNat ∧
          (s.stats.collisions.toNat ≤ s.stats.evaluated.toNat - s.stats.undelivered.toNat ↔
            (judgements calls answers).countP isUnheardAlarm ≤
              (judgements calls answers).countP isHeardRelief)) := by
  have hnew := isNew_of_create hcreate
  refine ⟨exists_answerAll_iff hnew htree, ?_⟩
  intro s answers hrun
  have hbalanced := (Balanced.answerAll hnew.stats (hnew.built htree) hrun).2
  refine ⟨hbalanced.collisions, fun hfew => ?_⟩
  have hcollisions := toNat_ofNat_countP hfew answers isAlarm
  have hevaluated := toNat_ofNat_countP hfew answers isDecided
  have hundelivered := toNat_ofNat_countP hfew answers isUnheard
  rw [← hbalanced.collisions, countP_isAlarm] at hcollisions
  rw [← hbalanced.evaluated, countP_isDecided, countP_isHeard] at hevaluated
  rw [← hbalanced.undelivered] at hundelivered
  rw [← countP_isUnheardAlarm_eq_zero_iff, hcollisions, hevaluated, hundelivered]
  have hunheard : (judgements calls answers).countP isUnheardAlarm ≤
      (judgements calls answers).countP isUnheard := countP_isUnheardAlarm_le
  refine ⟨by omega, by omega, by omega⟩

/-- A wall is announced to somebody, and the next time to nobody. -/
def sightings : List Call := [.judge wall attended ⟨0, ⟨0, 0⟩⟩, .judge wall .usual ⟨1, ⟨0, 0⟩⟩]

/-- Both alarms are counted, and one was heard. -/
theorem collisions_eq_heard_sightings :
    Sentinel.create { minFrames := 1 } "body" mounted = .ok (lookout 1) ∧ mounted.Built IsNumber ∧
      ∃ s answers, (lookout 1).answerAll sightings = .ok (s, answers) ∧
        s.stats = { evaluated := 2, undelivered := 1, collisions := 2 } ∧
        (judgements sightings answers).countP isHeardAlarm = 1 ∧
        ∃ j ∈ judgements sightings answers, j.isAlarm = true ∧ j.isHeard = false := by
  have hcreate : Sentinel.create { minFrames := 1 } "body" mounted = .ok (lookout 1) := rfl
  obtain ⟨hruns, hevery⟩ := collisions_eq_heard_iff hcreate built_mounted sightings
  obtain ⟨⟨s, answers⟩, hrun⟩ := hruns.2 (by decide)
  obtain ⟨-, htotals⟩ := hevery s answers hrun
  obtain ⟨hheard, -, -⟩ := htotals (by decide)
  have hresult : ((lookout 1).answerAll sightings).toOption.map (fun last =>
        (last.1.stats, (judgements sightings last.2).countP isHeardAlarm)) =
      some ({ evaluated := 2, undelivered := 1, collisions := 2 }, 1) := by decide +kernel
  rw [hrun] at hresult
  obtain ⟨hstats, hone⟩ := Prod.mk.inj (Option.some.inj hresult)
  dsimp only at hstats hone
  refine ⟨hcreate, built_mounted, s, answers, hrun, hstats, hone, ?_⟩
  rw [hstats, hone] at hheard
  by_contra hnone
  push Not at hnone
  have habsurd := hheard.2 fun j hj halarm => Bool.eq_true_of_not_eq_false (hnone j hj halarm)
  exact absurd habsurd (by decide)

/-- **An alarm is counted although nobody hears it**, where nobody hears any verdict. -/
theorem alarm_unheard :
    ∃ s answers, Sentinel.create { minFrames := 1 } "body" mounted = .ok (lookout 1) ∧
      (lookout 1).answerAll [.judge wall .usual ⟨0, ⟨0, 0⟩⟩] = .ok (s, answers) ∧
      s.stats.collisions.toNat = 1 ∧
      (judgements [.judge wall .usual ⟨0, ⟨0, 0⟩⟩] answers).countP isHeardAlarm = 0 ∧
      s.stats.evaluated.toNat - s.stats.undelivered.toNat = 0 := by
  have hresult : ((lookout 1).answerAll [.judge wall .usual ⟨0, ⟨0, 0⟩⟩]).toOption.map
        (fun last => (last.1.stats,
          (judgements [.judge wall .usual ⟨0, ⟨0, 0⟩⟩] last.2).countP isHeardAlarm)) =
      some ({ evaluated := 1, undelivered := 1, collisions := 1 }, 0) := by decide +kernel
  cases hrun : (lookout 1).answerAll [.judge wall .usual ⟨0, ⟨0, 0⟩⟩] with
  | error crash =>
    rw [hrun] at hresult
    cases hresult
  | ok last =>
    obtain ⟨s, answers⟩ := last
    rw [hrun] at hresult
    obtain ⟨hstats, hnone⟩ := Prod.mk.inj (Option.some.inj hresult)
    dsimp only at hstats hnone
    refine ⟨s, answers, rfl, rfl, ?_, hnone, ?_⟩
    · rw [hstats]
      rfl
    · rw [hstats]
      rfl

end Sentinel

end CollisionWatch
