import CollisionWatch.Proofs.Runs
import CollisionWatch.Proofs.Sentinel.Verdicts
import Mathlib.Algebra.GroupWithZero.Nat

/-!
# Calls of a sentinel

A sentinel is asked to judge clouds and told to discard its streak, in any order (`Sentinel.Call`).
Between two calls listeners come and go and others use the bus, so every call for a verdict brings
the bus as it is then. A call does one of three things (`answer_cases`), and what holds through whole
runs follows from these. Only a loss that its total cannot count ends a run
(`exists_foldlM_answer_iff`).
-/

namespace CollisionWatch.Sentinel

open Double (IsNumber)

/-- What a sentinel is asked to do. -/
inductive Call where
  /-- To judge a cloud, on a bus and with a stamp for the verdict. -/
  | judge (cloud : Cloud) (bus : Bus) (stamp : Stamp)
  /-- To discard the streak because this many clouds were lost. -/
  | discard (lost : UInt64)

/-- How many clouds a call reports as lost. -/
def Call.lost : Call → Nat
  | judge .. => 0
  | discard lost => lost.toNat

/-- How many clouds calls report as lost. -/
def Call.lostTotal (calls : List Call) : Nat := (calls.map Call.lost).sum

/-- A sentinel after a call, and its answers with the one to this call. -/
def answer (state : Sentinel × List (Except Fault Verdict)) :
    Call → Except Crash (Sentinel × List (Except Fault Verdict))
  | .judge cloud bus stamp => do
    let outcome ← state.1.process cloud bus stamp
    return (outcome.sentinel, state.2 ++ [outcome.result])
  | .discard lost => do
    let (s, _) ← state.1.discardStreak lost
    return (s, state.2)

/-- A cloud is answered with what comes of it. -/
theorem answer_judge (s : Sentinel) (answers : List (Except Fault Verdict)) (cloud : Cloud)
    (bus : Bus) (stamp : Stamp) :
    answer (s, answers) (.judge cloud bus stamp) =
      (s.process cloud bus stamp).map fun o => (o.sentinel, answers ++ [o.result]) := rfl

/-- A gap is not answered. -/
theorem answer_discard (s : Sentinel) (answers : List (Except Fault Verdict)) (lost : UInt64) :
    answer (s, answers) (.discard lost) =
      (s.discardStreak lost).map fun told => (told.1, answers) := rfl

/-- A sentinel after some calls, and its answers. -/
def answerAll (s : Sentinel) (calls : List Call) :
    Except Crash (Sentinel × List (Except Fault Verdict)) :=
  calls.foldlM answer (s, [])

variable {s s' : Sentinel} {answers answers' : List (Except Fault Verdict)} {call : Call}
  {calls : List Call}

/-! ## One call -/

/-- **A call gives a cloud up, decides on it and announces the verdict, or discards the streak.** -/
theorem answer_cases (htree : s.tree.Built IsNumber)
    (h : answer (s, answers) call = .ok (s', answers')) :
    (∃ cloud bus stamp fault notice, call = .judge cloud bus stamp ∧
      s' = (s.giveUp fault bus notice).sentinel ∧ answers' = answers ++ [.error fault]) ∨
    (∃ cloud bus stamp risky, call = .judge cloud bus stamp ∧
      s' = ((s.decide risky).announce bus stamp).sentinel ∧
      answers' = answers ++ [.ok ((s.decide risky).verdict stamp)]) ∨
    ∃ lost, call = .discard lost ∧ s.stats.lost.toNat + lost.toNat < UInt64.size ∧
      s' = { s with
        streak := s.streak.reset
        stats := { s.stats with lost := s.stats.lost + lost } } ∧
      answers' = answers := by
  cases call with
  | judge cloud bus stamp =>
    rw [answer_judge] at h
    rcases process_cases htree cloud bus stamp with
      ⟨-, fault, notice, hprocess⟩ | ⟨risky, -, hprocess⟩
    · rw [hprocess] at h
      obtain ⟨rfl, rfl⟩ := Prod.mk.inj (Except.ok.inj h)
      exact .inl ⟨cloud, bus, stamp, fault, notice, rfl, rfl, rfl⟩
    · rw [hprocess] at h
      obtain ⟨rfl, rfl⟩ := Prod.mk.inj (Except.ok.inj h)
      rw [result_announce]
      exact .inr (.inl ⟨cloud, bus, stamp, risky, rfl, rfl, rfl⟩)
  | discard lost =>
    obtain ⟨told, hdiscard, htold⟩ := exists_of_map_eq_ok h
    have hlost := lost_lt_of_discardStreak hdiscard
    rw [discardStreak_eq_ok hlost] at hdiscard
    obtain rfl := Except.ok.inj hdiscard
    obtain ⟨rfl, rfl⟩ := Prod.mk.inj htold
    exact .inr (.inr ⟨lost, rfl, hlost, rfl, rfl⟩)

/-- No call changes the tree, and every call adds what it reports as lost. -/
theorem tree_and_lost_of_answer (htree : s.tree.Built IsNumber)
    (h : answer (s, answers) call = .ok (s', answers')) :
    s'.tree = s.tree ∧ s'.stats.lost.toNat = s.stats.lost.toNat + call.lost := by
  rcases answer_cases htree h with ⟨cloud, bus, stamp, fault, notice, rfl, rfl, -⟩ |
    ⟨cloud, bus, stamp, risky, rfl, rfl, -⟩ | ⟨lost, rfl, hlost, rfl, -⟩
  · exact ⟨rfl, rfl⟩
  · rw [sentinel_announce]
    exact ⟨rfl, rfl⟩
  · exact ⟨rfl, toNat_add_of_lt hlost⟩

/-- A call is answered exactly if the total of lost clouds still fits into its word. -/
theorem exists_answer_iff (htree : s.tree.Built IsNumber)
    (answers : List (Except Fault Verdict)) (call : Call) :
    (∃ next, answer (s, answers) call = .ok next) ↔
      s.stats.lost.toNat + call.lost < UInt64.size := by
  cases call with
  | judge cloud bus stamp =>
    refine iff_of_true ?_ s.stats.lost.toNat_lt
    rw [answer_judge]
    rcases process_cases htree cloud bus stamp with
      ⟨-, fault, notice, hprocess⟩ | ⟨risky, -, hprocess⟩
    · exact ⟨_, congrArg _ hprocess⟩
    · exact ⟨_, congrArg _ hprocess⟩
  | discard lost =>
    constructor
    · rintro ⟨next, h⟩
      obtain ⟨told, hdiscard, -⟩ := exists_of_map_eq_ok h
      exact lost_lt_of_discardStreak hdiscard
    · intro hlost
      exact ⟨_, congrArg (Except.map _) (discardStreak_eq_ok hlost)⟩

/-! ## Runs -/

/-- **Calls are answered exactly as long as the total of lost clouds fits into its word.** -/
theorem exists_foldlM_answer_iff (htree : s.tree.Built IsNumber)
    (answers : List (Except Fault Verdict)) :
    (∃ last, calls.foldlM answer (s, answers) = .ok last) ↔
      s.stats.lost.toNat + Call.lostTotal calls < UInt64.size := by
  induction calls generalizing s answers with
  | nil => exact iff_of_true ⟨(s, answers), rfl⟩ s.stats.lost.toNat_lt
  | cons call rest ih =>
    rw [Call.lostTotal, List.map_cons, List.sum_cons, ← Call.lostTotal, ← Nat.add_assoc]
    constructor
    · rintro ⟨last, hrun⟩
      obtain ⟨⟨s', answers'⟩, hanswer, hrest⟩ := exists_of_foldlM_cons hrun
      obtain ⟨htree', hlost'⟩ := tree_and_lost_of_answer htree hanswer
      rw [← hlost']
      exact (ih (htree' ▸ htree) answers').1 ⟨last, hrest⟩
    · intro hlost
      obtain ⟨⟨s', answers'⟩, hanswer⟩ :=
        (exists_answer_iff htree answers call).2 (Nat.lt_of_le_of_lt (Nat.le_add_right _ _) hlost)
      obtain ⟨htree', hlost'⟩ := tree_and_lost_of_answer htree hanswer
      rw [← hlost'] at hlost
      rw [List.foldlM_cons, hanswer]
      exact (ih (htree' ▸ htree) answers').2 hlost

/-- A new sentinel answers calls as long as the clouds that they report as lost can be counted. -/
theorem exists_answerAll_iff {thresholds : Thresholds} {tree : FrameTree (Pose Float32)}
    (hnew : IsNew thresholds tree s) (htree : tree.Built IsNumber) :
    (∃ last, s.answerAll calls = .ok last) ↔ Call.lostTotal calls < UInt64.size := by
  have hnone : s.stats.lost.toNat + Call.lostTotal calls = Call.lostTotal calls := by
    rw [hnew.stats]
    exact Nat.zero_add _
  rw [← hnone]
  exact exists_foldlM_answer_iff (hnew.built htree) []

end CollisionWatch.Sentinel
