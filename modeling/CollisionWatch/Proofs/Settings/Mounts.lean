import CollisionWatch.Proofs.FrameTree.Consistency
import CollisionWatch.Settings.Basic

/-!
# Mounts and what they resolve to

The mounts of the settings are a list, and the tree of the sensors' frames is built from it mount by
mount. Between two frames the last mount counts (`link?_tree`), and a link with a fixed motion is
usable at every time, one that is no number included (`carries_tree_iff`). A link between two frames
is the shortest chain there can be, so no way round by other mounts comes before it
(`lookupBy_of_hop`). Main statement: of settings without a defect every mount resolves to the pose
of the last one between its frames, in both directions, and in whatever order the links of a frame
are walked (`resolve_mounted`).
-/

namespace CollisionWatch

open Double (IsNumber)

/-! ## Frames one hop apart -/

/-- A look-up between frames that are one hop apart takes that hop, in whatever order the links are
walked. -/
theorem FrameTree.lookupBy_of_hop {T : Type} [Motion T] {tree : FrameTree T} {time : Float}
    {u v : String} {motion : T} (hindex : tree.Indexed) (hstamps : tree.NumberStamped)
    (hne : u ≠ v) (hhop : tree.Hop time u v motion)
    {step : String → Except Crash (List (String × T))} (hstep : tree.Enumerates time step) :
    tree.lookupBy step u v = .ok (some (Motion.compose Motion.identity motion)) := by
  have hone : Chain (tree.Hop time) u v [motion] := Chain.origin.extend hhop
  obtain ⟨answer, hlookup, hshortest⟩ := hstep.exists_lookupBy_eq_ok hindex hstamps hne
  obtain ⟨found, rfl⟩ := Option.isSome_iff_exists.1 (hshortest.isSome_iff.2 ⟨_, hone⟩)
  obtain ⟨motions, hchain, hleast, rfl⟩ := hshortest.shortest found rfl
  obtain ⟨other, rfl, hother⟩ := hchain.exists_hop_of_length_le_one (hleast _ hone) hne
  rw [hlookup, hother.unique hhop]
  rfl

namespace Settings

/-- The mount that counts between two frames: the last one. -/
def lastMount? (s : Settings) (parent child : String) : Option Mount :=
  (s.mounts.filter fun m => m.parent = parent ∧ m.child = child).getLast?

/-! ## The tree -/

/-- **Between two frames the last mount is the link.** -/
theorem link?_tree (s : Settings) (u v : String) :
    s.tree.link? u v = (s.lastMount? u v).map fun m => .fixed m.pose := by
  unfold tree lastMount?
  induction s.mounts using List.reverseRecOn with
  | nil => rfl
  | append_singleton mounts m ih =>
    rw [List.foldl_append, List.foldl_cons, List.foldl_nil, FrameTree.setFixed,
      FrameTree.link?_setLink, List.filter_append, List.getLast?_append, ih]
    by_cases hm : m.parent = u ∧ m.child = v
    · obtain ⟨rfl, rfl⟩ := hm
      simp
    · have hm' : ¬ (u = m.parent ∧ v = m.child) := fun h => hm ⟨h.1.symm, h.2.symm⟩
      simp [hm, hm']

/-- The tree of the mounts is built, link by link. -/
theorem built_tree (s : Settings) : s.tree.Built IsNumber := by
  unfold tree
  induction s.mounts using List.reverseRecOn with
  | nil => exact .new
  | append_singleton mounts m ih =>
    rw [List.foldl_append]
    exact .setFixed m.parent m.child m.pose ih

/-- A link of the tree is usable at every time. -/
theorem carries_tree_iff (s : Settings) (time : Float) (u v : String) (motion : Pose Float32) :
    s.tree.Carries time u v motion ↔ ∃ m, s.lastMount? u v = some m ∧ m.pose = motion := by
  unfold FrameTree.Carries
  rw [link?_tree]
  constructor
  · rintro ⟨link, hlink, hat⟩
    obtain ⟨m, hm, rfl⟩ := Option.map_eq_some_iff.1 hlink
    exact ⟨m, hm, Option.some.inj (Except.ok.inj hat)⟩
  · rintro ⟨m, hm, rfl⟩
    exact ⟨_, Option.map_eq_some_iff.2 ⟨m, hm, rfl⟩, rfl⟩

/-- The motion of the hop between two frames: the pose of the last mount, or that of the last one
the other way round, inverted. -/
def hop? (s : Settings) (target source : String) : Option (Pose Float32) :=
  ((s.lastMount? target source).map Mount.pose).or
    ((s.lastMount? source target).map fun m => m.pose.inverse)

/-- A motion that the mounts give from a frame to the next is a hop of their tree, at any time. -/
theorem hop_of_hop? {s : Settings} {target source : String} {motion : Pose Float32}
    (h : s.hop? target source = some motion) (time : Float) :
    s.tree.Hop time target source motion := by
  unfold hop? at h
  cases hdown : s.lastMount? target source with
  | some m =>
    rw [hdown] at h
    exact .inl ((s.carries_tree_iff time target source motion).2 ⟨m, hdown, Option.some.inj h⟩)
  | none =>
    rw [hdown] at h
    obtain ⟨m, hup, rfl⟩ := Option.map_eq_some_iff.1 h
    refine .inr ⟨fun down hcarries => ?_, m.pose, ?_, rfl⟩
    · obtain ⟨m', hm', -⟩ := (s.carries_tree_iff time target source down).1 hcarries
      cases hdown.symm.trans hm'
    · exact (s.carries_tree_iff time source target m.pose).2 ⟨m, hup, rfl⟩

/-! ## Mounts that are accepted -/

/-- A mount of settings without a defect has none itself. -/
theorem mountDefect?_eq_none {s : Settings} (h : s.defect? = none) {m : Mount}
    (hm : m ∈ s.mounts) : mountDefect? m = none := by
  unfold defect? at h
  split_ifs at h with hvehicle hinterval
  exact List.findSome?_eq_none_iff.1 (Option.or_eq_none_iff.1 h).1 m hm

/-- A mount without a defect joins two frames, and its numbers are finite. -/
theorem mountDefect?_eq_none_iff (m : Mount) :
    mountDefect? m = none ↔
      ¬ (m.parent = "" ∨ m.child = "" ∨ m.parent = m.child) ∧ m.isFinite = true := by
  unfold mountDefect?
  split_ifs with hframes hplace <;> simp_all

/-- No mount of accepted settings has its own frame as parent. -/
theorem parent_ne_child {s : Settings} (h : s.defect? = none) {m : Mount} (hm : m ∈ s.mounts) :
    m.parent ≠ m.child := fun heq =>
  ((mountDefect?_eq_none_iff m).1 (mountDefect?_eq_none h hm)).1 (.inr (.inr heq))

/-- A mount is followed by the last one between its frames, or it is that one. -/
theorem exists_lastMount? {s : Settings} {m : Mount} (hm : m ∈ s.mounts) :
    ∃ last, s.lastMount? m.parent m.child = some last := by
  unfold lastMount?
  rw [← Option.isSome_iff_exists, List.getLast?_isSome]
  exact List.ne_nil_of_mem (List.mem_filter.2 ⟨hm, by simp⟩)

/-- The motion answers for a frame seen from another one at a time, by the tree and in whatever
order its links are walked. -/
structure Answers (s : Settings) (time : Float) (target source : String)
    (motion : Pose Float32) : Prop where
  /-- The tree resolves it to the motion. -/
  resolve : s.tree.resolve time target source = .ok (.ok motion)
  /-- Every order of the links finds the motion. -/
  lookup : ∀ step, s.tree.Enumerates time step →
    s.tree.lookupBy step target source = .ok (some motion)

/-- Between two frames that a mount joins the tree answers with the motion of the mount. -/
theorem answers_of_hop? {s : Settings} {target source : String} {motion : Pose Float32}
    (hne : target ≠ source) (h : s.hop? target source = some motion) (time : Float) :
    s.Answers time target source (Pose.identity.compose motion) := by
  have hbuilt := s.built_tree
  have hlookup : ∀ step, s.tree.Enumerates time step →
      s.tree.lookupBy step target source = .ok (some (Pose.identity.compose motion)) :=
    fun step hstep =>
      FrameTree.lookupBy_of_hop hbuilt.indexed hbuilt.numberStamped hne (hop_of_hop? h time) hstep
  exact ⟨FrameTree.resolve_of_lookup
    (hlookup _ (hbuilt.numberStamped.enumerates_neighbours hbuilt.indexed time)), hlookup⟩

/-- **Every mount resolves to what was configured**: the child seen from the parent to the pose of
the last mount between them, and the parent seen from the child to the pose of the last mount the
other way round or, if there is none, to the inverse of the former. -/
theorem resolve_mounted {s : Settings} (h : s.defect? = none) {m : Mount} (hm : m ∈ s.mounts)
    (time : Float) :
    ∃ last, s.lastMount? m.parent m.child = some last ∧
      s.Answers time m.parent m.child (Pose.identity.compose last.pose) ∧
      s.Answers time m.child m.parent (Pose.identity.compose
        (((s.lastMount? m.child m.parent).map Mount.pose).getD last.pose.inverse)) := by
  obtain ⟨last, hlast⟩ := exists_lastMount? hm
  have hne := parent_ne_child h hm
  refine ⟨last, hlast, answers_of_hop? hne ?_ time, answers_of_hop? hne.symm ?_ time⟩
  · rw [hop?, hlast]
    rfl
  · rw [hop?, hlast]
    cases s.lastMount? m.child m.parent <;> rfl

/-- The lidar as it is mounted in the end. -/
def lidarMount : Mount := ⟨"novatel", "lidar", ⟨0, 1.2, 1.8⟩, ⟨0, 0, 0, 2⟩⟩

/-- The vehicle as it is mounted on the lidar, which contradicts the former. -/
def vehicleMount : Mount := ⟨"lidar", "novatel", ⟨0, 0, -2⟩, .identity⟩

/-- Settings with a mount that is given twice, the opposite mount, and a way round by a third frame.
-/
def tangled : Settings :=
  { mounts := [⟨"novatel", "lidar", ⟨0, 9, 9⟩, .identity⟩, ⟨"novatel", "mast", .zero, .identity⟩,
      vehicleMount, ⟨"mast", "lidar", .zero, .identity⟩, lidarMount] }

/-- The mounts of the tangled settings resolve at a time that is no number. -/
theorem resolve_mounted_tangled :
    tangled.defect? = none ∧ lidarMount ∈ tangled.mounts ∧
      tangled.Answers (0 / 0) "novatel" "lidar" (Pose.identity.compose lidarMount.pose) ∧
      tangled.Answers (0 / 0) "lidar" "novatel" (Pose.identity.compose vehicleMount.pose) := by
  have haccepted : tangled.defect? = none := by decide +kernel
  have hmember : lidarMount ∈ tangled.mounts := by simp [tangled]
  obtain ⟨last, hlast, hdown, hup⟩ := resolve_mounted haccepted hmember (0 / 0)
  have hlidar : tangled.lastMount? "novatel" "lidar" = some lidarMount := rfl
  have hvehicle : tangled.lastMount? "lidar" "novatel" = some vehicleMount := rfl
  obtain rfl : lidarMount = last := Option.some.inj (hlidar.symm.trans hlast)
  refine ⟨haccepted, hmember, hdown, ?_⟩
  have hback : tangled.lastMount? lidarMount.child lidarMount.parent = some vehicleMount := hvehicle
  rw [hback] at hup
  exact hup

end Settings

end CollisionWatch
