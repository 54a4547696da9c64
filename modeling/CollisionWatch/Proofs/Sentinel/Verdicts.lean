import CollisionWatch.Proofs.Risk.Thresholds
import CollisionWatch.Proofs.Sentinel.Marks

/-!
# The verdicts of a sentinel

A decision on a cloud makes a verdict, and the verdict is published whether or not anybody listens
(`result_announce`, `bus_announce`). A verdict stays in force until the next one: clouds that cannot
be placed make none, and a gap makes none either. So long after the streak was discarded the last
word may still be a collision (`InForce`); only a clear cloud takes it back.
-/

namespace CollisionWatch

open Double (IsNumber)

/-! ## The last word -/

/-- Since then there was a verdict, and the last one was a collision: a risky cloud that ended a
segment with enough risky clouds, of which some may have come before. -/
def InForce (n : Nat) (before since : List Mark) : Prop :=
  ∃ earlier later, since = earlier ++ .risky :: later ∧
    (∀ mark ∈ later, mark ≠ .risky ∧ mark ≠ .clear) ∧ Sustained n (before ++ earlier ++ [.risky])

/-- Without a verdict nothing is in force. -/
theorem not_inForce_nil (n : Nat) (before : List Mark) : ¬ InForce n before [] := by
  rintro ⟨earlier, later, heq, -, -⟩
  exact List.append_ne_nil_of_right_ne_nil earlier (List.cons_ne_nil _ later) heq.symm

/-- The last of the marks is the one that was picked out, or comes after it. -/
theorem cases_of_append_singleton {since earlier later : List Mark} {last mark : Mark}
    (h : since ++ [last] = earlier ++ mark :: later) :
    (since = earlier ∧ last = mark ∧ later = []) ∨
      ∃ init, since = earlier ++ mark :: init ∧ later = init ++ [last] := by
  rcases List.eq_nil_or_concat later with rfl | ⟨init, final, rfl⟩
  · obtain ⟨hsince, hlast⟩ := List.append_inj' h rfl
    exact .inl ⟨hsince, List.singleton_inj.1 hlast, rfl⟩
  · rw [List.concat_eq_append, ← List.cons_append, ← List.append_assoc] at h
    obtain ⟨hsince, hlast⟩ := List.append_inj' h rfl
    obtain rfl := List.singleton_inj.1 hlast
    exact .inr ⟨init, hsince, List.concat_eq_append⟩

/-- A clear cloud takes a collision back. -/
theorem not_inForce_append_clear (n : Nat) (before since : List Mark) :
    ¬ InForce n before (since ++ [.clear]) := by
  rintro ⟨earlier, later, heq, hlater, -⟩
  rcases cases_of_append_singleton heq with ⟨-, hlast, -⟩ | ⟨init, -, rfl⟩
  · cases hlast
  · exact (hlater .clear (by simp)).2 rfl

/-- After a risky cloud a collision is in force if the streak is long enough. -/
theorem inForce_append_risky_iff (n : Nat) (before since : List Mark) :
    InForce n before (since ++ [.risky]) ↔ Sustained n (before ++ (since ++ [.risky])) := by
  constructor
  · rintro ⟨earlier, later, heq, hlater, hsustained⟩
    rcases cases_of_append_singleton heq with ⟨rfl, -, -⟩ | ⟨init, -, rfl⟩
    · rw [← List.append_assoc]
      exact hsustained
    · exact absurd rfl (hlater .risky (by simp)).1
  · intro hsustained
    refine ⟨since, [], rfl, fun mark hmark => absurd hmark List.not_mem_nil, ?_⟩
    rw [List.append_assoc]
    exact hsustained

/-- A mark without a verdict changes nothing. -/
theorem inForce_append_iff (n : Nat) (before since : List Mark) {mark : Mark}
    (hmark : mark ≠ .risky ∧ mark ≠ .clear) :
    InForce n before (since ++ [mark]) ↔ InForce n before since := by
  constructor
  · rintro ⟨earlier, later, heq, hlater, hsustained⟩
    rcases cases_of_append_singleton heq with ⟨-, hlast, -⟩ | ⟨init, hsince, rfl⟩
    · exact absurd hlast hmark.1
    · exact ⟨earlier, init, hsince, fun m hm => hlater m (List.mem_append_left _ hm), hsustained⟩
  · rintro ⟨earlier, later, rfl, hlater, hsustained⟩
    refine ⟨earlier, later ++ [mark], by simp, fun m hm => ?_, hsustained⟩
    rcases List.mem_append.1 hm with hm | hm
    · exact hlater m hm
    · obtain rfl := List.mem_singleton.1 hm
      exact hmark

/-- **A decision puts a collision into force exactly if the streak is long enough then.** -/
theorem inForce_append_ofDecision_iff {n : Nat} (hn : 0 < n) (before since : List Mark)
    (risky : Bool) :
    InForce n before (since ++ [.ofDecision risky]) ↔
      Sustained n (before ++ (since ++ [.ofDecision risky])) := by
  cases risky with
  | true => exact inForce_append_risky_iff n before since
  | false =>
    refine iff_of_false (not_inForce_append_clear n before since) fun hsustained => ?_
    rw [← List.append_assoc] at hsustained
    exact hn.ne' (hsustained.eq_zero (.inl rfl))

namespace Sentinel

/-! ## A new sentinel -/

/-- The sentinel goes by these thresholds and this tree, and has seen nothing yet. -/
structure IsNew (thresholds : Thresholds) (tree : FrameTree (Pose Float32)) (s : Sentinel) :
    Prop where
  /-- It looks with this tree. -/
  tree : s.tree = tree
  /-- It waits for as many risky clouds as the thresholds ask for. -/
  threshold : s.streak.threshold = thresholds.minFrames
  /-- No sentinel finds collisions without a risky cloud. -/
  threshold_pos : 0 < s.streak.threshold.toNat
  /-- It has seen no risky cloud. -/
  count : s.streak.count = 0
  /-- It has counted nothing. -/
  stats : s.stats = {}

/-- A sentinel is made of thresholds that pass. -/
theorem eq_of_create {thresholds : Thresholds} {vehicle : String}
    {tree : FrameTree (Pose Float32)} {s : Sentinel}
    (h : Sentinel.create thresholds vehicle tree = .ok s) :
    thresholds.validate = .ok () ∧
      s = { vehicle, thresholds, tree, streak := { threshold := thresholds.minFrames } } := by
  unfold Sentinel.create at h
  cases hvalidate : thresholds.validate with
  | error fault =>
    rw [hvalidate] at h
    cases h
  | ok _ =>
    rw [hvalidate] at h
    by_cases hblank : Text.isBlankText vehicle.toList = true
    · rw [if_pos hblank] at h
      cases h
    · rw [if_neg hblank] at h
      exact ⟨rfl, (Except.ok.inj h).symm⟩

/-- What is made is new. -/
theorem isNew_of_create {thresholds : Thresholds} {vehicle : String}
    {tree : FrameTree (Pose Float32)} {s : Sentinel}
    (h : Sentinel.create thresholds vehicle tree = .ok s) : IsNew thresholds tree s := by
  obtain ⟨hvalidate, rfl⟩ := eq_of_create h
  refine ⟨rfl, rfl, Nat.pos_of_ne_zero fun hzero => ?_, rfl, rfl⟩
  exact ((Thresholds.validate_eq_ok_iff _).1 hvalidate).minFrames (UInt32.toNat_inj.1 hzero)

/-- A new sentinel goes by the tree that it was made from. -/
theorem IsNew.built {thresholds : Thresholds} {tree : FrameTree (Pose Float32)} {s : Sentinel}
    (h : IsNew thresholds tree s) (htree : tree.Built IsNumber) : s.tree.Built IsNumber :=
  h.tree ▸ htree

/-! ## Announcing -/

variable (s : Sentinel) (bus : Bus) (stamp : Stamp)

/-- The verdict that a sentinel announces. -/
def verdict : Verdict := ⟨stamp.instant.toSeconds, s.streak.isPersistent⟩

/-- The answer to a decision is the verdict, whoever listens. -/
theorem result_announce : (s.announce bus stamp).result = .ok (s.verdict stamp) := by
  unfold announce
  dsimp only
  split <;> rfl

/-- The verdict is published. -/
theorem bus_announce : (s.announce bus stamp).bus =
    (bus.publish .collisionWarning ⟨stamp, source, .verdict (s.verdict stamp)⟩).2 := by
  unfold announce verdict
  dsimp only
  split
  · rename_i hpublish
    rw [hpublish]
  · rename_i hpublish
    rw [hpublish]

/-- No cloud is lost by announcing. -/
theorem lost_announce : (s.announce bus stamp).sentinel.stats.lost = s.stats.lost := by
  rw [sentinel_announce]

/-! ## A sentinel to try things on -/

/-- A sensor that looks where the vehicle looks. -/
def mounted : FrameTree (Pose Float32) := FrameTree.setFixed {} "body" "lidar" Pose.identity

/-- A sentinel that looks with it, and takes this many risky clouds in a row for a collision. -/
def lookout (frames : UInt32) : Sentinel where
  vehicle := "body"
  thresholds := { minFrames := frames }
  tree := mounted
  streak := { threshold := frames }

/-- A wall five metres ahead. -/
def wall : Cloud := ⟨"lidar", 0, List.replicate 5 ⟨0.5, 5, 1⟩⟩

/-- The tree of the mounted sensor is built. -/
theorem built_mounted : mounted.Built IsNumber := .setFixed "body" "lidar" _ .new

/-- The usual thresholds make a lookout that waits for three risky clouds. -/
theorem create_lookout : Sentinel.create {} "body" mounted = .ok (lookout 3) := rfl

end Sentinel

end CollisionWatch
