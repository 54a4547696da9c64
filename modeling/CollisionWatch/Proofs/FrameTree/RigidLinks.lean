import CollisionWatch.Proofs.FrameTree.Growth
import CollisionWatch.Proofs.Geometry.Exact

/-!
# Trees made of rigid poses

If the poses of a tree are rigid when they are fixed or recorded, then so are all poses in the tree
(`RigidLinks`), and all motions that a usable link has at a time (`RigidLinks.carries_isRigid`): a
motion is one of the poses, or it is blended from two.
-/

namespace CollisionWatch

variable {K : Type} [Field K]

/-- All poses of a link are rigid. -/
def Link.IsRigid : Link (Pose K) → Prop
  | .fixed motion => motion.IsRigid
  | .recorded history => ∀ s ∈ history.samples, s.motion.IsRigid

/-- A sample within the tolerance stands in as it is. -/
theorem Sample.eq_of_within {T : Type} {sample : Sample T} {distance tolerance : Float}
    {motion : T} (h : sample.within distance tolerance = some motion) : sample.motion = motion := by
  unfold Sample.within at h
  split at h
  · exact Option.some.inj h
  · cases h

section Sampling

variable [LinearOrder K] [IsStrictOrderedRing K] [RootScalar K] [LawfulRootScalar K]

/-- Between two samples the motion is rigid. -/
theorem Sample.isRigid_between {before after : Sample (Pose K)} (hafter : after.motion.IsRigid)
    (time : Float) : (before.between after time).IsRigid := by
  unfold Sample.between
  dsimp only
  split
  · exact hafter
  · exact Pose.isRigid_blend _ _ _

/-- What a link of rigid poses has at a time is rigid. -/
theorem Link.IsRigid.isRigid_of_at? {link : Link (Pose K)} (h : link.IsRigid)
    {time tolerance : Float} {motion : Pose K} (hat : link.at? time tolerance = .ok (some motion)) :
    motion.IsRigid := by
  cases link with
  | fixed fixedMotion =>
    obtain rfl := Option.some.inj (Except.ok.inj hat)
    exact h
  | recorded history =>
    simp only [Link.at?, History.at?] at hat
    split at hat
    · cases hat
    · split at hat
      · rename_i first last hfirst hlast
        split at hat
        · rw [← Sample.eq_of_within (Except.ok.inj hat)]
          exact h first (List.mem_of_head? hfirst)
        · split at hat
          · rw [← Sample.eq_of_within (Except.ok.inj hat)]
            exact h last (List.mem_of_getLast? hlast)
          · split at hat
            · cases hat
            · split at hat
              · rename_i before after hbefore hafter
                obtain rfl := Option.some.inj (Except.ok.inj hat)
                exact Sample.isRigid_between (h after (List.mem_of_getElem? hafter)) time
              · cases hat
      · cases hat

end Sampling

namespace FrameTree

variable {tree : FrameTree (Pose K)}

/-- All poses in the tree are rigid. -/
def RigidLinks (tree : FrameTree (Pose K)) : Prop :=
  ∀ u v link, tree.link? u v = some link → link.IsRigid

/-- A tree without links has rigid links only. -/
theorem rigidLinks_empty : RigidLinks ({} : FrameTree (Pose K)) := by
  intro u v link hlink
  simp [link?] at hlink

/-- A new link of rigid poses keeps all poses rigid. -/
theorem RigidLinks.setLink (h : tree.RigidLinks) (parent child : String) {link : Link (Pose K)}
    (hlink : link.IsRigid) : (tree.setLink parent child link).RigidLinks := by
  intro u v other hother
  rw [link?_setLink] at hother
  split at hother
  · obtain rfl := Option.some.inj hother
    exact hlink
  · exact h u v other hother

/-- Recording a rigid pose keeps all poses rigid. -/
theorem RigidLinks.record (h : tree.RigidLinks) (parent child : String) (stamp : Float)
    {motion : Pose K} (hmotion : motion.IsRigid) :
    (tree.record parent child stamp motion).RigidLinks := by
  refine h.setLink parent child fun s hs => ?_
  rcases History.mem_samples_record hs with rfl | hs
  · exact hmotion
  · obtain ⟨history, hlink, hs⟩ := exists_link_of_mem_samples hs
    exact h parent child _ hlink s hs

/-- **A tree of rigid poses has rigid motions at every time.** -/
theorem RigidLinks.carries_isRigid [LinearOrder K] [IsStrictOrderedRing K] [RootScalar K]
    [LawfulRootScalar K] (h : tree.RigidLinks) {time : Float} {u v : String} {motion : Pose K}
    (hcarries : tree.Carries time u v motion) : motion.IsRigid := by
  obtain ⟨link, hlink, hat⟩ := hcarries
  exact (h u v link hlink).isRigid_of_at? hat

end FrameTree

end CollisionWatch
