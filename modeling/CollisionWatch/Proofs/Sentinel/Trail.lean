import CollisionWatch.Proofs.Sentinel.Marks
import Mathlib.Data.List.DropRight

/-!
# The count of a streak

A streak holds its count in a word, and the word is full one day if nothing ends the streak. How
many risky clouds were recorded last, without a clear one or a reset among them, is a number of any
size (`Streak.trail`). The streak is compared with that number over every run of records and resets:
the count is as much of it as the word holds, and whether the risk is persistent can be told from
either (`Streak.tracks`), since no threshold is beyond the word.
-/

namespace CollisionWatch.Streak

/-- What is done with a streak. -/
inductive Entry where
  /-- A decision on a cloud is recorded. -/
  | record (risky : Bool)
  /-- The streak is ended. -/
  | reset
  deriving Repr, DecidableEq

/-- The mark of an entry. -/
def Entry.mark : Entry → Mark
  | record risky => .ofDecision risky
  | reset => .gap

/-- The streak after an entry. -/
def enter (s : Streak) : Entry → Streak
  | .record risky => s.record risky
  | .reset => s.reset

/-- What is said to an entry: whether the risk is persistent with the cloud. A reset is not
answered. -/
def answer? (s : Streak) : Entry → Option Bool
  | .record risky => some (s.record risky).isPersistent
  | .reset => none

/-- The streak after some entries. -/
def enterAll (s : Streak) (entries : List Entry) : Streak := entries.foldl enter s

/-- What is said to some entries. -/
def answers (s : Streak) : List Entry → List (Option Bool)
  | [] => []
  | entry :: rest => s.answer? entry :: (s.enter entry).answers rest

/-- How many risky clouds were recorded last, with nothing else in between. -/
def trail (entries : List Entry) : Nat :=
  (entries.rtakeWhile fun entry => entry = .record true).length

/-! ## The trail -/

/-- A risky cloud makes the trail longer. -/
theorem trail_append_risky (entries : List Entry) :
    trail (entries ++ [.record true]) = trail entries + 1 := by
  rw [trail, List.rtakeWhile_concat_pos _ _ _ (by decide), List.length_append]
  rfl

/-- Anything else ends it. -/
theorem trail_append_other (entries : List Entry) {entry : Entry} (h : entry ≠ .record true) :
    trail (entries ++ [entry]) = 0 := by
  rw [trail, List.rtakeWhile_concat_neg _ _ _ (by simpa using h), List.length_nil]

example :
    trail [.record true, .reset, .record true, .record false, .record true, .record true] = 2 := by
  decide

/-- Risky clouds one after the other make it as much longer. -/
theorem trail_append_replicate (entries : List Entry) (n : Nat) :
    trail (entries ++ List.replicate n (.record true)) = trail entries + n := by
  induction n with
  | zero => rw [List.replicate_zero, List.append_nil, Nat.add_zero]
  | succ n ih =>
    rw [List.replicate_succ', ← List.append_assoc, trail_append_risky, ih, Nat.add_assoc]

/-- The trail is the run of risky clouds at the end of the marks. -/
theorem riskyRun_map_mark (entries : List Entry) :
    riskyRun (entries.map Entry.mark) = trail entries := by
  induction entries using List.reverseRecOn with
  | nil => rfl
  | append_singleton entries entry ih =>
    rw [List.map_append, List.map_singleton, riskyRun_append_singleton, ih]
    cases entry with
    | reset => exact (trail_append_other entries (by decide)).symm
    | record risky =>
      cases risky with
      | false => exact (trail_append_other entries (by decide)).symm
      | true => exact (trail_append_risky entries).symm

/-! ## The streak -/

/-- The last entry comes after the others. -/
theorem enterAll_append_singleton (s : Streak) (entries : List Entry) (entry : Entry) :
    s.enterAll (entries ++ [entry]) = (s.enterAll entries).enter entry := List.foldl_append

/-- An entry does not change the threshold. -/
@[simp] theorem threshold_enter (s : Streak) (entry : Entry) :
    (s.enter entry).threshold = s.threshold := by
  cases entry with
  | reset => rfl
  | record risky => cases risky <;> rfl

/-- No number of entries changes the threshold. -/
@[simp] theorem threshold_enterAll (s : Streak) (entries : List Entry) :
    (s.enterAll entries).threshold = s.threshold := by
  induction entries generalizing s with
  | nil => rfl
  | cons entry rest ih => exact (ih (s.enter entry)).trans (s.threshold_enter entry)

/-- What is answered to an entry is whether the risk is persistent after it. -/
theorem answer?_record (s : Streak) (risky : Bool) :
    s.answer? (.record risky) = some (s.enter (.record risky)).isPersistent := rfl

/-- The answer to an entry behind others. -/
theorem getElem?_answers (s : Streak) (before : List Entry) (entry : Entry) (after : List Entry) :
    (s.answers (before ++ entry :: after))[before.length]? =
      some ((s.enterAll before).answer? entry) := by
  induction before generalizing s with
  | nil => rfl
  | cons first before ih => exact ih (s.enter first)

/-- Every entry has its answer, or none. -/
theorem length_answers (s : Streak) (entries : List Entry) :
    (s.answers entries).length = entries.length := by
  induction entries generalizing s with
  | nil => rfl
  | cons entry rest ih => exact congrArg Nat.succ (ih (s.enter entry))

/-- A new streak counts what is entered. -/
theorem counts_enterAll (threshold : UInt32) (entries : List Entry) :
    (enterAll { threshold } entries).Counts (entries.map Entry.mark) := by
  induction entries using List.reverseRecOn with
  | nil => rfl
  | append_singleton entries entry ih =>
    rw [enterAll_append_singleton, List.map_append, List.map_singleton]
    cases entry with
    | record risky => exact ih.record risky
    | reset => exact .reset _ _

/-- The risk is persistent from the threshold on. -/
theorem isPersistent_enterAll_iff (threshold : UInt32) (entries : List Entry) :
    (enterAll { threshold } entries).isPersistent = true ↔ threshold.toNat ≤ trail entries := by
  rw [(counts_enterAll threshold entries).isPersistent_iff, threshold_enterAll,
    sustained_iff_le_riskyRun, riskyRun_map_mark]

/-- A streak of some threshold has kept up with the trail of what was entered. -/
structure Tracks (threshold : UInt32) (entries : List Entry) : Prop where
  /-- The count is the trail, or the largest word if it is longer. -/
  count : (enterAll { threshold } entries).count.toNat = min (trail entries) (UInt32.size - 1)
  /-- The threshold stays. -/
  threshold_eq : (enterAll { threshold } entries).threshold = threshold
  /-- The risk is persistent from the threshold on. -/
  persistent : (enterAll { threshold } entries).isPersistent = true ↔
    threshold.toNat ≤ trail entries
  /-- Every entry has its answer, or none. -/
  answered : (answers { threshold } entries).length = entries.length
  /-- A record is answered with what is true of the streak after it, and so of the trail. -/
  record : ∀ before risky after, entries = before ++ .record risky :: after →
    (answers { threshold } entries)[before.length]? =
        some (some (enterAll { threshold } (before ++ [.record risky])).isPersistent) ∧
      (answers { threshold } entries)[before.length]? =
        some (some (decide (threshold.toNat ≤ trail (before ++ [.record risky]))))
  /-- A reset is not answered. -/
  reset : ∀ before after, entries = before ++ .reset :: after →
    (answers { threshold } entries)[before.length]? = some none
  /-- A persistent risk stays persistent however many risky clouds are recorded then. -/
  lasting : threshold.toNat ≤ trail entries →
    ∀ n, (enterAll { threshold } (entries ++ List.replicate n (.record true))).isPersistent = true

/-- **A streak keeps up with the trail**, however long it is. -/
theorem tracks (threshold : UInt32) (entries : List Entry) : Tracks threshold entries where
  count := by
    have hcounts := counts_enterAll threshold entries
    rwa [Counts, riskyRun_map_mark] at hcounts
  threshold_eq := threshold_enterAll _ entries
  persistent := isPersistent_enterAll_iff threshold entries
  answered := length_answers _ entries
  record := by
    rintro before risky after rfl
    have hanswer : (answers { threshold } (before ++ .record risky :: after))[before.length]? =
        some (some (enterAll { threshold } (before ++ [.record risky])).isPersistent) := by
      rw [getElem?_answers, answer?_record, enterAll_append_singleton]
    have hpersistent : (enterAll { threshold } (before ++ [.record risky])).isPersistent =
        decide (threshold.toNat ≤ trail (before ++ [.record risky])) :=
      Bool.eq_iff_iff.2 ((isPersistent_enterAll_iff _ _).trans decide_eq_true_iff.symm)
    exact ⟨hanswer, hpersistent ▸ hanswer⟩
  reset := by
    rintro before after rfl
    exact getElem?_answers _ before .reset after
  lasting := by
    intro h n
    rw [isPersistent_enterAll_iff, trail_append_replicate]
    exact Nat.le_add_right_of_le h

/-- More risky clouds in a row than the word can count, for the highest threshold there is. -/
theorem tracks_overlong :
    let clouds := List.replicate 5000000000 (Entry.record true)
    (enterAll { threshold := most } clouds).count = most ∧
      (enterAll { threshold := most } clouds).isPersistent = true := by
  intro clouds
  have htrail : trail clouds = 5000000000 :=
    (trail_append_replicate [] 5000000000).trans (Nat.zero_add _)
  have htracks := tracks most clouds
  refine ⟨UInt32.toNat_inj.1 ?_, htracks.persistent.2 ?_⟩
  · rw [htracks.count, htrail]
    rfl
  · rw [htrail]
    decide

end CollisionWatch.Streak
