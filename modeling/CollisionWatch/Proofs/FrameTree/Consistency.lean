import CollisionWatch.Proofs.FrameTree.Bearing
import CollisionWatch.Proofs.FrameTree.Disorder
import CollisionWatch.Proofs.FrameTree.Forest
import CollisionWatch.Proofs.FrameTree.RigidLinks

/-!
# Look-ups in a forest agree with each other

In exact arithmetic, at a time at which every usable link has a rotation of norm one, the usable
links of a forest carry rigid poses, and the way back over a link carries the inverse
(`IsForest.hop_inverse`). Then the motions composed along any chain are the bearing between its ends
(`IsForest.foldl_compose_eq`), and so is what a look-up answers (`finds_bearing`). The laws of
bearings become laws of look-ups (`lookup_consistent`), whichever chains the searches take and
wherever these overlap.

A blend is rigid whatever it is made of, so the links are rigid at every time if the poses they were
made of are (`RigidLinks.carries_isRigid`).
-/

namespace CollisionWatch

/-! ## Chains -/

section Chain

variable {T : Type} {hop : String → String → T → Prop}

/-- A chain to where another one starts. -/
theorem Chain.trans {a b c : String} {motions others : List T} (hab : Chain hop a b motions)
    (hbc : Chain hop b c others) : Chain hop a c (motions ++ others) := by
  induction hbc with
  | origin => simpa using hab
  | extend _ hhop ih =>
    rw [← List.append_assoc]
    exact ih.extend hhop

end Chain

namespace FrameTree

section Joined

variable {T : Type} [Motion T] {tree : FrameTree T} {time : Float}

/-- A chain of usable links leads from one frame to another. -/
def Joined (tree : FrameTree T) (time : Float) (a b : String) : Prop :=
  ∃ motions, Chain (tree.Hop time) a b motions

/-- Frames that are joined to a third one are joined. -/
theorem Joined.trans {a b c : String} (hab : tree.Joined time a b) (hbc : tree.Joined time b c) :
    tree.Joined time a c := by
  obtain ⟨motions, hab⟩ := hab
  obtain ⟨others, hbc⟩ := hbc
  exact ⟨_, hab.trans hbc⟩

/-- A hop leads back as well, over the same link or over another one between the frames. -/
theorem Hop.exists_back {u v : String} {motion : T} (h : tree.Hop time u v motion) :
    ∃ back, tree.Hop time v u back := by
  rcases h with hdown | ⟨-, up, hup, -⟩
  · by_cases hback : ∃ down, tree.Carries time v u down
    · obtain ⟨down, hback⟩ := hback
      exact ⟨down, .inl hback⟩
    · exact ⟨_, .inr ⟨fun down hdown => hback ⟨down, hdown⟩, motion, hdown, rfl⟩⟩
  · exact ⟨up, .inl hup⟩

/-- A chain can be walked back. -/
theorem Joined.symm {a b : String} (h : tree.Joined time a b) : tree.Joined time b a := by
  obtain ⟨motions, hchain⟩ := h
  induction hchain with
  | origin => exact ⟨[], .origin⟩
  | @extend u v _ motion _ hhop ih =>
    obtain ⟨back, hback⟩ := hhop.exists_back
    have hfirst : tree.Joined time v u := ⟨_, Chain.origin.extend hback⟩
    exact hfirst.trans ih

/-- The look-up answers with the motion, unless it comes by a link that cannot be sampled. -/
def Finds (tree : FrameTree T) (time : Float) (target source : String) (motion : T) : Prop :=
  tree.lookup time target source = .ok (some motion) ∨
    ∃ crash, tree.Breaks time crash ∧ tree.lookup time target source = .error crash

/-- Where every history starts with a number, what a look-up finds is its answer. -/
theorem Finds.lookup_eq {target source : String} {motion : T}
    (h : tree.Finds time target source motion) (hstart : tree.StartsWithNumbers) :
    tree.lookup time target source = .ok (some motion) := by
  rcases h with hlookup | ⟨crash, hbreaks, -⟩
  · exact hlookup
  · exact absurd hbreaks (hstart.not_breaks time crash)

/-- A usable link is a link. -/
theorem Carries.linked {u v : String} {motion : T} (h : tree.Carries time u v motion) :
    tree.Linked u v := by
  obtain ⟨link, hlink, -⟩ := h
  unfold Linked
  rw [hlink]
  rfl

/-- There is one hop at most from one frame to another. -/
theorem Hop.unique {u v : String} {m n : T} (hm : tree.Hop time u v m)
    (hn : tree.Hop time u v n) : m = n := by
  rcases hm with hm | ⟨hnone, up, hup, rfl⟩
  · rcases hn with hn | ⟨hnone, -⟩
    · exact hm.unique hn
    · exact absurd hm (hnone m)
  · rcases hn with hn | ⟨-, up', hup', rfl⟩
    · exact absurd hn (hnone n)
    · rw [hup.unique hup']

/-- The frames of a hop are joined by a link. -/
theorem IsForest.adj_of_hop (hforest : tree.IsForest) {u v : String} {motion : T}
    (h : tree.Hop time u v motion) : tree.graph.Adj u v := by
  rcases h with hdown | ⟨-, up, hup, -⟩
  · exact hforest.adj hdown.linked
  · exact (hforest.adj hup.linked).symm

end Joined

/-! ## Rigid links -/

section Rigid

variable {K : Type} [Field K] [LinearOrder K] [RootScalar K] {tree : FrameTree (Pose K)}
  {time : Float}

/-- A hop over links that are rigid is rigid. -/
theorem Hop.isRigid (hrigid : ∀ u v motion, tree.Carries time u v motion → motion.IsRigid)
    {u v : String} {motion : Pose K} (h : tree.Hop time u v motion) : motion.IsRigid := by
  rcases h with hdown | ⟨-, up, hup, rfl⟩
  · exact hrigid u v motion hdown
  · exact (hrigid v u up hup).inverse

open Classical in
/-- The pose that a step between two frames carries, where there is a rigid one. -/
noncomputable def turn (tree : FrameTree (Pose K)) (time : Float) (u v : String) : RigidPose K :=
  if h : ∃ motion : RigidPose K, tree.Hop time u v motion.pose then h.choose else 1

/-- A step carries the pose of its hop. -/
theorem turn_of_hop {u v : String} {motion : RigidPose K} (h : tree.Hop time u v motion.pose) :
    tree.turn time u v = motion := by
  have hex : ∃ motion : RigidPose K, tree.Hop time u v motion.pose := ⟨motion, h⟩
  rw [turn, dif_pos hex]
  exact RigidPose.ext (hex.choose_spec.unique h)

namespace IsForest

variable (hforest : tree.IsForest)

include hforest

/-- The way back over a hop. -/
theorem hop_inverse {u v : String} {motion : RigidPose K} (h : tree.Hop time u v motion.pose)
    (hrigid : ∀ u v motion, tree.Carries time u v motion → motion.IsRigid) :
    tree.Hop time v u motion⁻¹.pose := by
  rcases h with hdown | ⟨-, up, hup, heq⟩
  · refine .inr ⟨fun up hup => ?_, motion.pose, hdown, rfl⟩
    exact hforest.one_way u v hdown.linked hup.linked
  · have hmotion : motion = (⟨up, hrigid v u up hup⟩ : RigidPose K)⁻¹ := RigidPose.ext heq.symm
    rw [hmotion, inv_inv]
    exact .inl hup

variable (hrigid : ∀ u v motion, tree.Carries time u v motion → motion.IsRigid)

include hrigid

/-- A step back carries the inverse. -/
theorem turn_inv (u v : String) : tree.turn time v u = (tree.turn time u v)⁻¹ := by
  by_cases hdown : ∃ motion : RigidPose K, tree.Hop time u v motion.pose
  · obtain ⟨motion, hhop⟩ := hdown
    rw [turn_of_hop hhop, turn_of_hop (hforest.hop_inverse hhop hrigid)]
  · have hup : ¬ ∃ motion : RigidPose K, tree.Hop time v u motion.pose := by
      rintro ⟨motion, hhop⟩
      exact hdown ⟨_, hforest.hop_inverse hhop hrigid⟩
    rw [turn, turn, dif_neg hdown, dif_neg hup, inv_one]

/-- **The motions of any chain compose to the bearing between its ends.** -/
theorem foldl_compose_eq {a b : String} {motions : List (Pose K)}
    (h : Chain (tree.Hop time) a b motions) :
    tree.graph.Reachable a b ∧
      motions.foldl Motion.compose Motion.identity =
        (bearing tree.graph (tree.turn time) a b).pose := by
  have hturn : ∀ u v, tree.graph.Adj u v → tree.turn time v u = (tree.turn time u v)⁻¹ :=
    fun u v _ => hforest.turn_inv hrigid u v
  induction h with
  | origin =>
    rw [bearing_self hforest.isAcyclic]
    exact ⟨.refl a, rfl⟩
  | @extend u v motions motion _ hhop ih =>
    obtain ⟨hreach, hfold⟩ := ih
    have hadj := hforest.adj_of_hop hhop
    have hrigidHop : tree.Hop time u v (RigidPose.mk motion (hhop.isRigid hrigid)).pose := hhop
    refine ⟨hreach.trans hadj.reachable, ?_⟩
    rw [List.foldl_append, hfold, bearing_adj hforest.isAcyclic hturn hreach hadj,
      RigidPose.pose_mul, turn_of_hop hrigidHop]
    rfl

/-- A look-up between joined frames finds the bearing. -/
theorem finds_bearing (hbuilt : tree.Built fun _ => True) {a b : String}
    (h : tree.Joined time a b) :
    tree.Finds time a b (bearing tree.graph (tree.turn time) a b).pose := by
  by_cases hne : a = b
  · subst hne
    rw [bearing_self hforest.isAcyclic]
    exact .inl (if_pos rfl)
  · rcases lookup_cases hbuilt.indexed time hne with ⟨answer, hlookup, hshortest⟩ | hcrash
    · obtain ⟨motion, rfl⟩ := Option.isSome_iff_exists.1 (hshortest.isSome_iff.2 h)
      obtain ⟨motions, hchain, -, rfl⟩ := hshortest.shortest motion rfl
      refine .inl ?_
      rw [hlookup, (hforest.foldl_compose_eq hrigid hchain).2]
    · exact .inr hcrash

end IsForest

/-- **In a forest of rigid links look-ups compose and invert as their motions do**, for all frames
that are joined at the time. -/
theorem lookup_consistent (hbuilt : tree.Built fun _ => True) (hforest : tree.IsForest)
    (hrigid : ∀ u v motion, tree.Carries time u v motion → motion.IsRigid) {a b c : String}
    (hab : tree.Joined time a b) (hbc : tree.Joined time b c) :
    tree.lookup time a a = .ok (some .identity) ∧
      ∃ ab bc, tree.Finds time a b ab ∧ tree.Finds time b c bc ∧
        tree.Finds time a c (ab.compose bc) ∧ tree.Finds time b a ab.inverse ∧
        ∀ p, ab.apply (ab.inverse.apply p) = p := by
  have hturn : ∀ u v, tree.graph.Adj u v → tree.turn time v u = (tree.turn time u v)⁻¹ :=
    fun u v _ => hforest.turn_inv hrigid u v
  have hreach : ∀ {u v}, tree.Joined time u v → tree.graph.Reachable u v := by
    rintro u v ⟨motions, hchain⟩
    exact (hforest.foldl_compose_eq hrigid hchain).1
  have hac : tree.Finds time a c _ := hforest.finds_bearing hrigid hbuilt (hab.trans hbc)
  have hba : tree.Finds time b a _ := hforest.finds_bearing hrigid hbuilt hab.symm
  rw [bearing_mul hforest.isAcyclic hturn (hreach hab) (hreach hbc)] at hac
  rw [bearing_inv hforest.isAcyclic hturn (hreach hab)] at hba
  refine ⟨if_pos rfl, _, _, hforest.finds_bearing hrigid hbuilt hab,
    hforest.finds_bearing hrigid hbuilt hbc, hac, hba, fun p => ?_⟩
  rw [← Pose.apply_compose, ← RigidPose.pose_inv, ← RigidPose.pose_mul, mul_inv_cancel,
    RigidPose.pose_one, Pose.identity_apply]

end Rigid

/-- The body of a vehicle, turned to the side. -/
noncomputable def turnedBody : Pose ℝ := ⟨⟨1, 3, 0⟩, ⟨3 / 5, 0, 0, 4 / 5⟩⟩

/-- A sensor, mounted upside down. -/
def hangingSensor : Pose ℝ := ⟨⟨0, 0, 1⟩, ⟨0, 1, 0, 0⟩⟩

/-- A body that was seen in a map once, and a sensor on the body. -/
noncomputable def rig : FrameTree (Pose ℝ) :=
  (FrameTree.record {} "map" "body" 0 turnedBody).setFixed "body" "lidar" hangingSensor

/-- The links of the rig are a forest. -/
theorem isForest_rig : rig.IsForest := by
  have hbody : (FrameTree.record {} "map" "body" 0 turnedBody).IsForest :=
    isForest_empty.setLink_of_not_linked (by decide) (fun u => by simp [Linked, link?]) _
  refine hbody.setLink_of_not_linked (by decide) (fun u => ?_) _
  rw [FrameTree.record, linked_setLink, linked_setLink]
  simp [Linked, link?]

/-- All links of the rig are rigid. -/
theorem rigidLinks_rig : rig.RigidLinks := by
  have hbody : turnedBody.IsRigid := by norm_num [turnedBody, Pose.IsRigid, Quaternion.dot]
  have hsensor : hangingSensor.IsRigid := by simp [hangingSensor, Pose.IsRigid, Quaternion.dot]
  exact (rigidLinks_empty.record _ _ _ hbody).setLink _ _ hsensor

/-- At the time of its sample the body is where it was seen. -/
theorem carries_rig_body : rig.Carries 0 "map" "body" turnedBody := by
  refine ⟨.recorded (History.record {} 100 0 turnedBody), ?_, ?_⟩
  · rw [rig, FrameTree.setFixed, FrameTree.record, link?_setLink, link?_setLink,
      if_neg (by decide), if_pos ⟨rfl, rfl⟩]
    simp [link?]
  · have hsamples : (History.record {} 100 0 turnedBody).samples = [⟨0, turnedBody⟩] := by
      simp [History.record, History.boundary, boundary]
    have hfinite : (0 : Float).isFinite = true := by decide
    have hle : (0 : Float) ≤ 0 := by decide
    have hnear : (0 : Float) - 0 ≤ rig.tolerance := by
      change (0 : Float) - 0 ≤ 0.1
      decide +kernel
    simp [Link.at?, History.at?, hsamples, hfinite, hle, Sample.within, hnear]

/-- The sensor hangs upside down on it. -/
theorem carries_rig_sensor : rig.Carries 0 "body" "lidar" hangingSensor := by
  refine ⟨.fixed hangingSensor, ?_, rfl⟩
  simp [rig, FrameTree.setFixed, link?_setLink]

/-- The sensor is looked up in the map by way of the body. -/
theorem lookup_consistent_rig :
    rig.Built (fun _ => True) ∧ rig.IsForest ∧
      (∀ u v motion, rig.Carries 0 u v motion → motion.IsRigid) ∧
      rig.Joined 0 "lidar" "map" ∧ rig.Joined 0 "map" "body" ∧
      ∃ ab bc, rig.lookup 0 "lidar" "map" = .ok (some ab) ∧
        rig.lookup 0 "map" "body" = .ok (some bc) ∧
        rig.lookup 0 "lidar" "body" = .ok (some (ab.compose bc)) ∧
        rig.lookup 0 "map" "lidar" = .ok (some ab.inverse) := by
  have hbuilt : rig.Built fun _ => True :=
    .setFixed "body" "lidar" _ (.record "map" "body" _ trivial .new)
  have hnumbers : rig.Built Double.IsNumber :=
    .setFixed "body" "lidar" _ (.record "map" "body" _ (by decide) .new)
  have hstart := hnumbers.numberStamped.startsWithNumbers
  have hrigid : ∀ u v motion, rig.Carries 0 u v motion → motion.IsRigid :=
    fun u v motion => rigidLinks_rig.carries_isRigid
  have hbody : rig.Joined 0 "map" "body" := ⟨_, Chain.origin.extend (.inl carries_rig_body)⟩
  have hsensor : rig.Joined 0 "body" "lidar" := ⟨_, Chain.origin.extend (.inl carries_rig_sensor)⟩
  have hback := (hbody.trans hsensor).symm
  obtain ⟨-, ab, bc, hab, hbc, hac, hba, -⟩ :=
    lookup_consistent hbuilt isForest_rig hrigid hback hbody
  exact ⟨hbuilt, isForest_rig, hrigid, hback, hbody, ab, bc, hab.lookup_eq hstart,
    hbc.lookup_eq hstart, hac.lookup_eq hstart, hba.lookup_eq hstart⟩

end FrameTree

end CollisionWatch
