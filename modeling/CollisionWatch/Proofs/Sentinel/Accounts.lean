import CollisionWatch.Proofs.Bus.Waiting
import CollisionWatch.Proofs.Sentinel.Calls

/-!
# The accounts of a sentinel

A sentinel gives a cloud up, and then nothing but the number of such clouds changes, or it hands a
verdict to everyone who listens for one (`Sentinel.Judged`). Its totals are the numbers of these
judgements through any run of calls, whoever listens at which of them (`Sentinel.Balanced`): no call
leaves a total behind or counts twice. So a reader of the totals knows what became of every cloud.
-/

namespace CollisionWatch

open Double (IsNumber)

/-- An answer of a sentinel, and how many listened to the verdicts when it was given. -/
structure Judgement where
  /-- How many listened. -/
  audience : Nat
  /-- The answer. -/
  answer : Except Fault Verdict

namespace Judgement

/-- The cloud got a verdict. -/
def isDecided (judgement : Judgement) : Bool := judgement.answer.isOk

/-- The cloud was given up. -/
def isGivenUp (judgement : Judgement) : Bool := !judgement.isDecided

/-- The verdict reached nobody. -/
def isUnheard (judgement : Judgement) : Bool := judgement.isDecided && judgement.audience == 0

/-- The verdict announces a collision. -/
def isAlarm (judgement : Judgement) : Bool := judgement.answer.toOption.any (·.collision)

/-- One set of totals counts a judgement more than the other. -/
structure Counted (judgement : Judgement) (before after : Stats) : Prop where
  /-- One verdict more. -/
  evaluated : after.evaluated =
    if judgement.isDecided then before.evaluated + 1 else before.evaluated
  /-- Or one cloud more that was given up. -/
  unresolved : after.unresolved =
    if judgement.isGivenUp then before.unresolved + 1 else before.unresolved
  /-- A verdict that reached nobody counts as such. -/
  undelivered : after.undelivered =
    if judgement.isUnheard then before.undelivered + 1 else before.undelivered
  /-- So does one that announces a collision. -/
  collisions : after.collisions =
    if judgement.isAlarm then before.collisions + 1 else before.collisions

end Judgement

namespace Sentinel

/-! ## One cloud -/

/-- The event in which a sentinel publishes a verdict. -/
def verdictEvent (stamp : Stamp) (verdict : Verdict) : Event := ⟨stamp, source, .verdict verdict⟩

/-- What came of judging a cloud is what should come of it. -/
structure Judged (s : Sentinel) (cloud : Cloud) (bus : Bus) (stamp : Stamp) (outcome : Outcome) :
    Prop where
  /-- There is no verdict exactly if the cloud has no sound time or no motion takes it into the
  vehicle's frame then. -/
  fault_iff : (∃ fault, outcome.result = .error fault) ↔
    cloud.time.isFinite = false ∨ s.tree.lookup cloud.time s.vehicle cloud.frame = .ok none
  /-- A cloud that is given up is counted, and changes nothing else. -/
  of_fault : ∀ fault, outcome.result = .error fault →
    fault = .unresolved cloud.time s.vehicle cloud.frame ∧ outcome.bus = bus ∧
      outcome.sentinel =
        { s with stats := { s.stats with unresolved := s.stats.unresolved + 1 } }
  /-- A verdict that somebody listens for is sent once, among the verdicts, and comes to all who
  listen there. -/
  heard : ∀ verdict, outcome.result = .ok verdict → 0 < bus.verdicts.listeners →
    outcome.bus = { bus with verdicts := bus.verdicts.send (verdictEvent stamp verdict) } ∧
      ∀ listener : Listener, listener.topic = .collisionWarning →
        listener.position ≤ bus.verdicts.sent.size →
        listener.waiting outcome.bus =
          (listener.waiting bus ++ [verdictEvent stamp verdict]).rtake bus.verdicts.capacity
  /-- A verdict that nobody listens for is not sent. -/
  unheard : ∀ verdict, outcome.result = .ok verdict → bus.verdicts.listeners = 0 →
    outcome.bus = bus

/-- A cloud that cannot be placed is given up as it should be. -/
theorem judged_giveUp {s : Sentinel} {cloud : Cloud}
    (hunplaced : cloud.time.isFinite = false ∨
      s.tree.lookup cloud.time s.vehicle cloud.frame = .ok none)
    (bus : Bus) (stamp : Stamp) (notice : Notice) :
    Judged s cloud bus stamp
      (s.giveUp (.unresolved cloud.time s.vehicle cloud.frame) bus notice) where
  fault_iff := iff_of_true ⟨_, rfl⟩ hunplaced
  of_fault := by
    rintro fault ⟨⟩
    exact ⟨rfl, rfl, rfl⟩
  heard := fun verdict hresult => nomatch hresult
  unheard := fun verdict hresult => nomatch hresult

/-- A verdict on a cloud that can be placed is announced as it should be. -/
theorem judged_announce {s : Sentinel} {cloud : Cloud} {pose : Pose Float32}
    (hfinite : cloud.time.isFinite = true)
    (hlookup : s.tree.lookup cloud.time s.vehicle cloud.frame = .ok (some pose))
    (risky : Bool) (bus : Bus) (stamp : Stamp) :
    Judged s cloud bus stamp ((s.decide risky).announce bus stamp) where
  fault_iff := by
    rw [result_announce, hfinite, hlookup]
    simp
  of_fault := by
    intro fault hfault
    rw [result_announce] at hfault
    cases hfault
  heard := by
    intro verdict hverdict hlisteners
    rw [result_announce] at hverdict
    obtain rfl := Except.ok.inj hverdict
    rw [bus_announce]
    refine ⟨congrArg Prod.snd (bus.publish_eq .collisionWarning hlisteners _), ?_⟩
    rintro ⟨_, position⟩ rfl hposition
    exact Listener.waiting_publish hposition hlisteners _
  unheard := by
    intro verdict hverdict hnobody
    rw [bus_announce, Bus.publish]
    exact congrArg Prod.snd (if_pos hnobody)

/-- **Every cloud is judged as it should be.** -/
theorem exists_judged {s : Sentinel} (htree : s.tree.Built IsNumber) (cloud : Cloud) (bus : Bus)
    (stamp : Stamp) :
    ∃ outcome, s.process cloud bus stamp = .ok outcome ∧ Judged s cloud bus stamp outcome := by
  rcases exists_placement s.vehicle htree cloud.time cloud.frame with
    ⟨hunplaced, notice, hplacement⟩ | ⟨hfinite, pose, hlookup, hplacement⟩
  · have hprocess := (hplacement s cloud rfl rfl rfl rfl).2 bus stamp
    exact ⟨_, hprocess, judged_giveUp hunplaced bus stamp notice⟩
  · have hprocess := (hplacement s cloud rfl rfl rfl rfl).2 bus stamp
    exact ⟨_, hprocess, judged_announce hfinite hlookup _ bus stamp⟩

/-- A cloud that is given up is counted. -/
theorem counted_giveUp (s : Sentinel) (fault : Fault) (bus : Bus) (notice : Notice) :
    Judgement.Counted ⟨bus.verdicts.listeners, .error fault⟩ s.stats
      (s.giveUp fault bus notice).sentinel.stats :=
  ⟨rfl, rfl, rfl, rfl⟩

/-- A verdict is counted, whatever it says and whoever listens. -/
theorem counted_announce (s : Sentinel) (risky : Bool) (bus : Bus) (stamp : Stamp) :
    Judgement.Counted ⟨bus.verdicts.listeners, .ok ((s.decide risky).verdict stamp)⟩ s.stats
      ((s.decide risky).announce bus stamp).sentinel.stats := by
  rw [sentinel_announce]
  exact ⟨rfl, rfl, if_congr beq_iff_eq.symm rfl rfl, rfl⟩

/-! ## Judgements -/

/-- How many listen to the verdicts when a call asks for one. -/
def Call.audience? : Call → Option Nat
  | judge _ bus _ => some bus.verdicts.listeners
  | discard _ => none

/-- The judgements that calls and their answers make. -/
def judgements (calls : List Call) (answers : List (Except Fault Verdict)) : List Judgement :=
  List.zipWith Judgement.mk (calls.filterMap Call.audience?) answers

/-- One more judgement. -/
theorem judgements_append_judge {calls : List Call} {answers : List (Except Fault Verdict)}
    (hlength : (calls.filterMap Call.audience?).length = answers.length) (cloud : Cloud) (bus : Bus)
    (stamp : Stamp) (answer : Except Fault Verdict) :
    judgements (calls ++ [.judge cloud bus stamp]) (answers ++ [answer]) =
      judgements calls answers ++ [⟨bus.verdicts.listeners, answer⟩] := by
  unfold judgements
  rw [List.filterMap_append, List.zipWith_append hlength]
  rfl

/-- A discarded streak is no judgement. -/
theorem judgements_append_discard (calls : List Call) (answers : List (Except Fault Verdict))
    (lost : UInt64) : judgements (calls ++ [.discard lost]) answers = judgements calls answers := by
  unfold judgements
  rw [List.filterMap_append]
  exact congrArg (List.zipWith _ · _) (List.append_nil _)

/-- A word counts one more if there is one more. -/
theorem ofNat_countP_append_singleton {α : Type} (p : α → Bool) (xs : List α) (x : α) :
    UInt64.ofNat ((xs ++ [x]).countP p) =
      if p x then .ofNat (xs.countP p) + 1 else .ofNat (xs.countP p) := by
  rw [List.countP_append, List.countP_singleton]
  split
  · exact UInt64.ofNat_add _ 1
  · rfl

/-- The totals of a sentinel are the numbers of the judgements that calls and answers make, as words
count them, and the total of what the calls reported as lost. -/
structure Balanced (calls : List Call) (answers : List (Except Fault Verdict)) (s : Sentinel) :
    Prop where
  /-- Every call for a verdict has its answer. -/
  length_eq : (calls.filterMap Call.audience?).length = answers.length
  /-- The clouds that got a verdict. -/
  evaluated : s.stats.evaluated = .ofNat ((judgements calls answers).countP Judgement.isDecided)
  /-- The clouds that were given up. -/
  unresolved : s.stats.unresolved = .ofNat ((judgements calls answers).countP Judgement.isGivenUp)
  /-- The verdicts that reached nobody. -/
  undelivered : s.stats.undelivered =
    .ofNat ((judgements calls answers).countP Judgement.isUnheard)
  /-- The verdicts that announce a collision. -/
  collisions : s.stats.collisions = .ofNat ((judgements calls answers).countP Judgement.isAlarm)
  /-- The clouds that were lost. -/
  lost : s.stats.lost.toNat = Call.lostTotal calls

namespace Balanced

variable {calls : List Call} {answers answers' : List (Except Fault Verdict)} {s s' : Sentinel}

/-- Nothing is counted at first. -/
theorem refl (h : s.stats = {}) : Balanced [] [] s := by
  refine ⟨rfl, ?_, ?_, ?_, ?_, ?_⟩ <;> rw [h] <;> rfl

/-- One more judgement is one more to count. -/
theorem judge (h : Balanced calls answers s) {cloud : Cloud} {bus : Bus} {stamp : Stamp}
    {answer : Except Fault Verdict}
    (hcounted : Judgement.Counted ⟨bus.verdicts.listeners, answer⟩ s.stats s'.stats)
    (hlost : s'.stats.lost.toNat = Call.lostTotal (calls ++ [.judge cloud bus stamp])) :
    Balanced (calls ++ [.judge cloud bus stamp]) (answers ++ [answer]) s' := by
  have hjudgements := judgements_append_judge h.length_eq cloud bus stamp answer
  refine ⟨by simp [Call.audience?, h.length_eq], ?_, ?_, ?_, ?_, hlost⟩
  · rw [hjudgements, ofNat_countP_append_singleton, ← h.evaluated]
    exact hcounted.evaluated
  · rw [hjudgements, ofNat_countP_append_singleton, ← h.unresolved]
    exact hcounted.unresolved
  · rw [hjudgements, ofNat_countP_append_singleton, ← h.undelivered]
    exact hcounted.undelivered
  · rw [hjudgements, ofNat_countP_append_singleton, ← h.collisions]
    exact hcounted.collisions

/-- A discarded streak is counted among the losses only. -/
theorem discard (h : Balanced calls answers s) {lost : UInt64}
    (hlost : (s.stats.lost + lost).toNat = Call.lostTotal (calls ++ [.discard lost])) :
    Balanced (calls ++ [.discard lost]) answers { s with
      streak := s.streak.reset
      stats := { s.stats with lost := s.stats.lost + lost } } := by
  have hjudgements := judgements_append_discard calls answers lost
  refine ⟨by simp [Call.audience?, h.length_eq], ?_, ?_, ?_, ?_, hlost⟩
  · rw [hjudgements]
    exact h.evaluated
  · rw [hjudgements]
    exact h.unresolved
  · rw [hjudgements]
    exact h.undelivered
  · rw [hjudgements]
    exact h.collisions

/-- **A call keeps the totals balanced.** -/
theorem answer (h : Balanced calls answers s) (htree : s.tree.Built IsNumber) {call : Call}
    (hanswer : Sentinel.answer (s, answers) call = .ok (s', answers')) :
    Balanced (calls ++ [call]) answers' s' := by
  have hlost : s'.stats.lost.toNat = Call.lostTotal (calls ++ [call]) := by
    rw [(tree_and_lost_of_answer htree hanswer).2, h.lost]
    simp [Call.lostTotal]
  rcases answer_cases htree hanswer with ⟨cloud, bus, stamp, fault, notice, rfl, rfl, rfl⟩ |
    ⟨cloud, bus, stamp, risky, rfl, rfl, rfl⟩ | ⟨lost, rfl, -, rfl, hsame⟩
  · exact h.judge (counted_giveUp s fault bus notice) hlost
  · exact h.judge (counted_announce s risky bus stamp) hlost
  · rw [hsame]
    exact h.discard hlost

/-- **Through any run of calls the totals stay balanced.** -/
theorem answerAll {s₀ : Sentinel} (hstats : s₀.stats = {}) (htree : s₀.tree.Built IsNumber)
    (hrun : s₀.answerAll calls = .ok (s, answers)) :
    s.tree = s₀.tree ∧ Balanced calls answers s := by
  induction calls using List.reverseRecOn generalizing s answers with
  | nil =>
    obtain ⟨rfl, rfl⟩ := Prod.mk.inj (Except.ok.inj hrun)
    exact ⟨rfl, refl hstats⟩
  | append_singleton calls call ih =>
    obtain ⟨⟨middle, earlier⟩, hearlier, hanswer⟩ := exists_of_foldlM_append_singleton hrun
    obtain ⟨hmiddle, hbalanced⟩ := ih hearlier
    have hbuilt : middle.tree.Built IsNumber := hmiddle ▸ htree
    exact ⟨(tree_and_lost_of_answer hbuilt hanswer).1.trans hmiddle,
      hbalanced.answer hbuilt hanswer⟩

end Balanced

/-! ## Every run -/

/-- **A sentinel judges every cloud as it should, whatever came before, and its totals say what
became of all of them.** It can be called as long as the clouds that were lost can be counted. -/
theorem judges_and_balances {thresholds : Thresholds} {vehicle : String}
    {tree : FrameTree (Pose Float32)} {s₀ : Sentinel}
    (hcreate : Sentinel.create thresholds vehicle tree = .ok s₀) (htree : tree.Built IsNumber)
    (calls : List Call) :
    ((∃ last, s₀.answerAll calls = .ok last) ↔ Call.lostTotal calls < UInt64.size) ∧
      ∀ s answers, s₀.answerAll calls = .ok (s, answers) →
        Balanced calls answers s ∧ ∀ cloud bus stamp, ∃ outcome,
          s.process cloud bus stamp = .ok outcome ∧ Judged s cloud bus stamp outcome := by
  have hnew := isNew_of_create hcreate
  refine ⟨exists_answerAll_iff hnew htree, ?_⟩
  intro s answers hrun
  obtain ⟨hsame, hbalanced⟩ := Balanced.answerAll hnew.stats (hnew.built htree) hrun
  exact ⟨hbalanced, exists_judged (hsame ▸ hnew.built htree)⟩

/-- A bus on which somebody listens for verdicts. -/
def attended : Bus := (Bus.usual.subscribe .collisionWarning).2

/-- The wall is seen when nobody listens, a cloud comes from a sensor that is not mounted, clouds are
lost, and the wall is seen again. -/
def errands : List Call :=
  [.judge wall .usual ⟨0, ⟨0, 0⟩⟩, .judge ⟨"radar", 0, []⟩ attended ⟨1, ⟨0, 0⟩⟩, .discard 4,
    .judge wall attended ⟨2, ⟨0, 0⟩⟩]

/-- Two verdicts, one of them unheard, one cloud given up and four lost; and so it goes on. -/
theorem judges_and_balances_errands :
    Sentinel.create {} "body" mounted = .ok (lookout 3) ∧ mounted.Built IsNumber ∧
      ∃ s answers outcome, (lookout 3).answerAll errands = .ok (s, answers) ∧
        Balanced errands answers s ∧
        s.stats = { evaluated := 2, unresolved := 1, undelivered := 1, lost := 4 } ∧
        s.process wall attended ⟨3, ⟨0, 0⟩⟩ = .ok outcome ∧
        Judged s wall attended ⟨3, ⟨0, 0⟩⟩ outcome := by
  obtain ⟨hruns, hevery⟩ := judges_and_balances create_lookout built_mounted errands
  obtain ⟨⟨s, answers⟩, hrun⟩ := hruns.2 (by decide)
  obtain ⟨hbalanced, hjudges⟩ := hevery s answers hrun
  obtain ⟨outcome, hprocess, hjudged⟩ := hjudges wall attended ⟨3, ⟨0, 0⟩⟩
  have hstats : ((lookout 3).answerAll errands).toOption.map (·.1.stats) =
      some { evaluated := 2, unresolved := 1, undelivered := 1, lost := 4 } := by decide +kernel
  rw [hrun] at hstats
  exact ⟨create_lookout, built_mounted, s, answers, outcome, hrun, hbalanced,
    Option.some.inj hstats, hprocess, hjudged⟩

end Sentinel

end CollisionWatch
