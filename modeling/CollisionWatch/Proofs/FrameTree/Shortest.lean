import CollisionWatch.Proofs.FrameTree.Growth
import CollisionWatch.Proofs.FrameTree.Search

/-!
# A look-up composes a shortest chain of usable links

The hops of a tree at a time are its usable links: downwards by the motion of the link, and upwards
by the inverse of it where no usable link leads downwards (`Hop`). A link without a sample at the
time is no hop. The frames next to a frame are kept in maps, and nothing depends on the order in
which these are walked: `Enumerates` allows any order of the frames below and any order of those
above.
-/

namespace CollisionWatch.FrameTree

open Double (IsNumber)

variable {T : Type} [Motion T]

/-- A usable step from `u` to `v`: the link down from `u` to `v`, or else the one down from `v` to
`u` walked backwards. -/
def Hop (tree : FrameTree T) (time : Float) (u v : String) (motion : T) : Prop :=
  tree.Carries time u v motion ∨
    (∀ down, ¬ tree.Carries time u v down) ∧
      ∃ up, tree.Carries time v u up ∧ Motion.inverse up = motion

/-- A function that lists the frames next to every frame, those below in any order and then those
above in any order. -/
def Enumerates (tree : FrameTree T) (time : Float)
    (step : String → Except Crash (List (String × T))) : Prop :=
  ∀ u, ∃ children ancestors below above, tree.children time u = .ok children ∧
    tree.ancestors time u = .ok ancestors ∧ below.Perm children ∧ above.Perm ancestors ∧
    step u = .ok (below ++ above)

/-- A look-up that walks the frames next to a frame in the order of `step`. -/
def lookupBy (tree : FrameTree T) (step : String → Except Crash (List (String × T)))
    (target source : String) : Except Crash (Option T) :=
  if source = target then .ok (some Motion.identity)
  else search step source tree.frameBound [target] [(target, Motion.identity)]

/-- The order of `lookup` is one of many. -/
theorem lookup_eq_lookupBy (tree : FrameTree T) (time : Float) (target source : String) :
    tree.lookup time target source = tree.lookupBy (tree.neighbours time) target source := rfl

/-- The order of `neighbours` is one of many. -/
theorem NumberStamped.enumerates_neighbours {tree : FrameTree T} (hindex : tree.Indexed)
    (h : tree.NumberStamped) (time : Float) : tree.Enumerates time (tree.neighbours time) := by
  intro u
  obtain ⟨below, hbelow, -⟩ := exists_children_eq_ok h time u
  obtain ⟨above, habove, -⟩ := exists_ancestors_eq_ok hindex h time u
  refine ⟨below, above, below, above, hbelow, habove, .refl _, .refl _, ?_⟩
  rw [neighbours, hbelow, habove]
  rfl

/-- Among the frames below and then those above a frame, the first entry of another one is the hop
to it. -/
theorem lookup_append_eq_some_iff {tree : FrameTree T} {time : Float} {u : String}
    {below above : List (String × T)}
    (hbelow : ∀ v motion, (v, motion) ∈ below ↔ tree.Carries time u v motion)
    (habove : ∀ v motion, (v, motion) ∈ above ↔
      ∃ up, tree.Carries time v u up ∧ Motion.inverse up = motion) (v : String) (motion : T) :
    (below ++ above).lookup v = some motion ↔ tree.Hop time u v motion := by
  have hlookupBelow : ∀ m, below.lookup v = some m ↔ tree.Carries time u v m := fun m => by
    rw [NameMap.lookup_eq_some_iff_mem, hbelow]
    intro m n hm hn
    exact ((hbelow v m).1 hm).unique ((hbelow v n).1 hn)
  have hlookupAbove : ∀ m, above.lookup v = some m ↔
      ∃ up, tree.Carries time v u up ∧ Motion.inverse up = m := fun m => by
    rw [NameMap.lookup_eq_some_iff_mem, habove]
    intro m n hm hn
    obtain ⟨_, hcarries, rfl⟩ := (habove v m).1 hm
    obtain ⟨_, hcarries', rfl⟩ := (habove v n).1 hn
    rw [hcarries.unique hcarries']
  rw [List.lookup_append, Hop, ← hlookupAbove, ← hlookupBelow]
  simp only [← hlookupBelow]
  cases below.lookup v <;> simp

/-- In whatever order they are listed, the first entry of a frame is the hop to it. -/
theorem Enumerates.listsHops {tree : FrameTree T} (hindex : tree.Indexed) (h : tree.NumberStamped)
    {time : Float} {step : String → Except Crash (List (String × T))}
    (hstep : tree.Enumerates time step) : ListsHops (tree.Hop time) step := by
  intro u
  obtain ⟨children, ancestors, below, above, hchildren, hancestors, hbelow, habove, hu⟩ := hstep u
  obtain ⟨_, hok, hdown⟩ := exists_children_eq_ok h time u
  obtain rfl := Except.ok.inj (hchildren.symm.trans hok)
  obtain ⟨_, hok, hup⟩ := exists_ancestors_eq_ok hindex h time u
  obtain rfl := Except.ok.inj (hancestors.symm.trans hok)
  refine ⟨below ++ above, hu, lookup_append_eq_some_iff ?_ ?_⟩
  · intro v motion
    rw [hbelow.mem_iff, hdown]
  · intro v motion
    rw [habove.mem_iff, hup]

/-- A hop leads to a frame with a name in the tree. -/
theorem Hop.mem_frames {tree : FrameTree T} (hindex : tree.Indexed) {time : Float} {u v : String}
    {motion : T} (h : tree.Hop time u v motion) : v ∈ tree.links.names ++ tree.parents.names := by
  rw [List.mem_append, NameMap.mem_names_iff, NameMap.mem_names_iff]
  rcases h with ⟨link, hlink, -⟩ | ⟨-, up, ⟨link, hlink, -⟩, -⟩
  · have hparent : tree.HasParent u v := (hindex u v).2 (by rw [hlink]; rfl)
    obtain ⟨parents, hparents, -⟩ := Option.bind_eq_some_iff.1 hparent
    exact .inr (by rw [hparents]; rfl)
  · obtain ⟨children, hchildren, -⟩ := Option.bind_eq_some_iff.1 hlink
    exact .inl (by rw [hchildren]; rfl)

/-- The search of a look-up finds a shortest chain, or that there is none, or it fails at a frame
whose neighbours cannot be listed. -/
theorem lookupBy_cases {tree : FrameTree T} (hindex : tree.Indexed) {time : Float}
    {step : String → Except Crash (List (String × T))}
    (hstep : ∀ u neighbours, step u = .ok neighbours →
      ∀ v motion, neighbours.lookup v = some motion ↔ tree.Hop time u v motion)
    {target source : String} (hne : target ≠ source) :
    (∃ answer, tree.lookupBy step target source = .ok answer ∧
      IsShortestAnswer (tree.Hop time) target source answer) ∨
    ∃ u crash, step u = .error crash ∧ tree.lookupBy step target source = .error crash := by
  rw [lookupBy, if_neg (Ne.symm hne)]
  refine search_cases hstep (target :: (tree.links.names ++ tree.parents.names)) ?_ _
    (.origin _ hne) (List.nodup_singleton _) ?_ ?_
  · intro u v motion hhop
    exact List.mem_cons_of_mem _ (hhop.mem_frames hindex)
  · intro v hv
    obtain rfl := List.mem_singleton.1 hv
    exact List.mem_cons_self
  · simp only [List.length_cons, List.length_append, NameMap.names, List.length_map, frameBound,
      NameMap.size, List.length_nil]
    omega

/-- The search of a look-up finds a shortest chain in whatever order the links are walked. -/
theorem Enumerates.exists_lookupBy_eq_ok {tree : FrameTree T} (hindex : tree.Indexed)
    (h : tree.NumberStamped) {time : Float} {step : String → Except Crash (List (String × T))}
    (hstep : tree.Enumerates time step) {target source : String} (hne : target ≠ source) :
    ∃ answer, tree.lookupBy step target source = .ok answer ∧
      IsShortestAnswer (tree.Hop time) target source answer := by
  have hlists := hstep.listsHops hindex h
  have hhops : ∀ u neighbours, step u = .ok neighbours →
      ∀ v motion, neighbours.lookup v = some motion ↔ tree.Hop time u v motion := by
    intro u neighbours hu
    obtain ⟨listed, hlisted, hhops⟩ := hlists u
    obtain rfl := Except.ok.inj (hlisted.symm.trans hu)
    exact hhops
  rcases lookupBy_cases hindex hhops hne with hanswer | ⟨u, crash, hfail, -⟩
  · exact hanswer
  · obtain ⟨listed, hlisted, -⟩ := hlists u
    cases hlisted.symm.trans hfail

/-- A motion that is missed is a fault that names the frames and the time. -/
theorem resolve_of_lookup {tree : FrameTree T} {time : Float} {target source : String}
    {answer : Option T} (h : tree.lookup time target source = .ok answer) :
    tree.resolve time target source =
      .ok (answer.elim (.error (.unresolved time target source)) .ok) := by
  rw [resolve, h]
  cases answer <;> rfl

/-- Where all stamps are numbers a motion is found or missed, and nothing else can happen. -/
theorem Built.exists_lookup_eq_ok {tree : FrameTree T} (h : tree.Built IsNumber) (time : Float)
    (target source : String) : ∃ answer, tree.lookup time target source = .ok answer := by
  by_cases hne : target = source
  · exact ⟨some Motion.identity, by rw [lookup, if_pos hne.symm]⟩
  · obtain ⟨answer, hanswer, -⟩ := (h.numberStamped.enumerates_neighbours h.indexed
      time).exists_lookupBy_eq_ok h.indexed h.numberStamped hne
    exact ⟨answer, hanswer⟩

/-- **A look-up answers with the motion of a shortest chain of usable links, or with nothing if no
chain joins the frames, in whatever order the links of a frame are walked.** -/
theorem lookup_isShortestAnswer {tree : FrameTree T} (h : tree.Built IsNumber) (time : Float)
    {target source : String} (hne : target ≠ source) :
    (∃ answer, tree.lookup time target source = .ok answer ∧
      IsShortestAnswer (tree.Hop time) target source answer) ∧
    ∀ step, tree.Enumerates time step →
      ∃ answer, tree.lookupBy step target source = .ok answer ∧
        IsShortestAnswer (tree.Hop time) target source answer := by
  have hall : ∀ step, tree.Enumerates time step →
      ∃ answer, tree.lookupBy step target source = .ok answer ∧
        IsShortestAnswer (tree.Hop time) target source answer :=
    fun step hstep => hstep.exists_lookupBy_eq_ok h.indexed h.numberStamped hne
  refine ⟨?_, hall⟩
  rw [lookup_eq_lookupBy]
  exact hall _ (h.numberStamped.enumerates_neighbours h.indexed time)

/-- A direct link that was recorded once, and a way round by two fixed links. -/
def detour : FrameTree (Pose Float32) :=
  ((FrameTree.record {} "map" "lidar" 0 Pose.identity).setFixed "map" "body"
    Pose.identity).setFixed "body" "lidar" Pose.identity

/-- A minute later only the way round is left. -/
theorem lookup_detour :
    detour.Built IsNumber ∧ "map" ≠ "lidar" ∧
      ∃ answer, detour.lookup 60 "map" "lidar" = .ok answer ∧
        IsShortestAnswer (detour.Hop 60) "map" "lidar" answer := by
  have hbuilt : detour.Built IsNumber :=
    .setFixed "body" "lidar" _ (.setFixed "map" "body" _ (.record "map" "lidar" _ (by decide) .new))
  exact ⟨hbuilt, by decide, (lookup_isShortestAnswer hbuilt 60 (by decide)).1⟩

end CollisionWatch.FrameTree
