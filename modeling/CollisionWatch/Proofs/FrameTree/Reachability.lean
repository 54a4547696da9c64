import CollisionWatch.Proofs.FrameTree.Consistency
import CollisionWatch.Proofs.FrameTree.Resending

/-!
# Which frames a tree knows and which it joins

Whatever has been told to a tree, two frames are linked exactly if something was told on the link
between them (`linked_after_iff`), so the tree knows the frames that were named in what was told and
no others (`hasFrame_after_iff`). The links may run in circles, from a frame to itself and both ways
between two frames; a fixed one may have become a recorded one and the other way round.

A look-up answers exactly if a chain of usable links joins its frames
(`Enumerates.exists_lookupBy_isSome_iff`). A chain can be walked back, since a link that is usable
downwards is usable upwards by way of the index of parents, and two chains can be walked one after
the other. So look-ups at one time answer for all pairs of a group of frames or for none, whichever
of the two is the target (`isCharted_after`).
-/

namespace CollisionWatch

open Double (IsNumber)

variable {T : Type}

/-- The frame is one of the two that the report is about. -/
def Report.Names (frame : String) (report : Report T) : Prop :=
  frame = report.parent ∨ frame = report.child

namespace FrameTree

variable {tree : FrameTree T} {commands : List (Command T)}

/-! ## Frames -/

/-- A command links the frames that it tells a motion between, and parts no others. -/
theorem linked_obey_iff (command : Command T) (u v : String) :
    (tree.obey command).Linked u v ↔
      tree.Linked u v ∨ ∃ report, command = .tell report ∧ report.IsOn u v := by
  cases command with
  | tell report =>
    unfold Linked obey
    rw [link?_tell, Report.revise]
    by_cases hon : report.IsOn u v
    · rw [if_pos hon]
      cases report.stamp? <;> simp [hon]
    · rw [if_neg hon]
      simp [hon]
  | withTolerance seconds => simp [obey, Linked, withTolerance, link?]
  | withHistory length => simp [obey, Linked, withHistory, link?]

/-- **Two frames are linked exactly if something was told on the link between them.** -/
theorem linked_after_iff (u v : String) :
    (after commands).Linked u v ↔ ∃ report, .tell report ∈ commands ∧ report.IsOn u v := by
  induction commands using List.reverseRecOn with
  | nil => simp [after, Linked, link?]
  | append_singleton commands command ih =>
    have hafter : after (commands ++ [command]) = (after commands).obey command := by
      rw [after, List.foldl_append]
      rfl
    rw [hafter, linked_obey_iff, ih]
    constructor
    · rintro (⟨report, hmem, hon⟩ | ⟨report, rfl, hon⟩)
      · exact ⟨report, List.mem_append_left _ hmem, hon⟩
      · exact ⟨report, List.mem_append_right _ (List.mem_singleton_self _), hon⟩
    · rintro ⟨report, hmem, hon⟩
      rcases List.mem_append.1 hmem with hmem | hmem
      · exact .inl ⟨report, hmem, hon⟩
      · exact .inr ⟨report, (List.mem_singleton.1 hmem).symm, hon⟩

/-- The frames of a tree are the ends of its links. -/
theorem Built.hasFrame_iff {allowed : Float → Prop} (h : tree.Built allowed) (frame : String) :
    tree.hasFrame frame = true ↔
      (∃ child, tree.Linked frame child) ∨ ∃ parent, tree.Linked parent frame := by
  obtain ⟨hlinks, hparents⟩ := h.noneEmpty
  rw [hasFrame, Bool.or_eq_true, NameMap.contains, NameMap.contains, hlinks.isSome_get?_iff,
    hparents.isSome_get?_iff]
  refine or_congr Iff.rfl (exists_congr fun parent => ?_)
  rw [Linked, ← h.indexed parent frame, HasParent, Option.isSome_iff_exists]
  constructor
  · rintro ⟨_, hparent⟩
    exact hparent
  · intro hparent
    exact ⟨_, hparent⟩

/-- **A tree has the frames that were named in what was told to it.** -/
theorem hasFrame_after_iff (frame : String) :
    (after commands).hasFrame frame = true ↔
      ∃ report, .tell report ∈ commands ∧ report.Names frame := by
  rw [(built_after commands).hasFrame_iff]
  simp only [linked_after_iff]
  constructor
  · rintro (⟨child, report, hmem, hon⟩ | ⟨parent, report, hmem, hon⟩)
    · exact ⟨report, hmem, .inl hon.1⟩
    · exact ⟨report, hmem, .inr hon.2⟩
  · rintro ⟨report, hmem, hparent | hchild⟩
    · exact .inl ⟨report.child, report, hmem, hparent, rfl⟩
    · exact .inr ⟨report.parent, report, hmem, rfl, hchild⟩

/-! ## Look-ups -/

section lookups

variable [Motion T] {time : Float}

/-- **A look-up answers exactly if its frames are joined**, in whatever order the links of a frame
are walked. -/
theorem Enumerates.exists_lookupBy_isSome_iff (hindex : tree.Indexed)
    (hnumbers : tree.NumberStamped)
    {step : String → Except Crash (List (String × T))} (hstep : tree.Enumerates time step)
    (target source : String) :
    ∃ answer, tree.lookupBy step target source = .ok answer ∧
      (answer.isSome = true ↔ tree.Joined time target source) := by
  by_cases hne : target = source
  · subst hne
    have hself : tree.Joined time target target := ⟨[], .origin⟩
    exact ⟨some Motion.identity, if_pos rfl, iff_of_true rfl hself⟩
  · obtain ⟨answer, hlookup, hshortest⟩ := hstep.exists_lookupBy_eq_ok hindex hnumbers hne
    exact ⟨answer, hlookup, hshortest.isSome_iff⟩

/-- A look-up from the source to the target answers with a motion. -/
def Reaches (tree : FrameTree T) (time : Float) (target source : String) : Prop :=
  ∃ motion, tree.lookup time target source = .ok (some motion)

/-- Where all stamps are numbers, frames have answers exactly if they are joined. -/
theorem reaches_iff_joined (hindex : tree.Indexed) (hnumbers : tree.NumberStamped)
    (target source : String) :
    tree.Reaches time target source ↔ tree.Joined time target source := by
  obtain ⟨answer, hlookup, hjoined⟩ := (hnumbers.enumerates_neighbours hindex
    time).exists_lookupBy_isSome_iff hindex hnumbers target source
  rw [← lookup_eq_lookupBy] at hlookup
  rw [Reaches, hlookup, ← hjoined, Option.isSome_iff_exists]
  exact exists_congr fun motion => ⟨Except.ok.inj, congrArg Except.ok⟩

/-- What a tree that was told these commands knows of its frames. -/
structure IsCharted (commands : List (Command T)) : Prop where
  /-- The parents that are kept for a frame are those that link to it. -/
  hasParent_iff : ∀ parent child, (after commands).HasParent parent child ↔
    ((after commands).link? parent child).isSome = true
  /-- No history is empty. -/
  ne_nil : ∀ parent child history,
    (after commands).link? parent child = some (.recorded history) → history.samples ≠ []
  /-- The frames are those that were named in what was told. -/
  hasFrame_iff : ∀ frame, (after commands).hasFrame frame = true ↔
    ∃ report, .tell report ∈ commands ∧ report.Names frame
  /-- A look-up comes to an end, and finds something exactly if the one the other way does; in
  whatever order the links of a frame are walked. -/
  symm : ∀ time a b, ∃ there back, (after commands).lookup time a b = .ok there ∧
    (after commands).lookup time b a = .ok back ∧ there.isSome = back.isSome ∧
    ∀ step, (after commands).Enumerates time step →
      ∃ found, (after commands).lookupBy step a b = .ok found ∧ found.isSome = there.isSome
  /-- What can be looked up in steps can be looked up at once. -/
  trans : ∀ time a b c, (after commands).Reaches time a b → (after commands).Reaches time b c →
    (after commands).Reaches time a c

/-- **A tree that is told motions at times that are numbers keeps its index, and its look-ups answer
for all pairs of a group of frames or for none.** -/
theorem isCharted_after (hnumbers : ∀ report, .tell report ∈ commands →
    ∀ stamp, report.stamp? = some stamp → IsNumber stamp) : IsCharted commands := by
  have hindex : (after commands).Indexed := (built_after commands).indexed
  have hon : ∀ u v, ∀ command ∈ commands, command.NumberedOn u v := by
    intro u v command hmem
    cases command with
    | tell report => exact fun _ => hnumbers report hmem
    | withTolerance seconds => trivial
    | withHistory length => trivial
  have hstamped : (after commands).NumberStamped := by
    intro u v history hlink
    exact ((isSampled_after (hon u v)).isOrdered history hlink).numbers
  refine ⟨hindex, ?_, hasFrame_after_iff, ?_, ?_⟩
  · intro parent child history hlink
    exact (isSampled_after (hon parent child)).ne_nil history hlink
  · intro time a b
    -- In any order of the neighbours a look-up answers, and finds something if there is a chain.
    have hall : ∀ step, (after commands).Enumerates time step → ∀ target source, ∃ answer,
        (after commands).lookupBy step target source = .ok answer ∧
          (answer.isSome = true ↔ (after commands).Joined time target source) :=
      fun step hstep => hstep.exists_lookupBy_isSome_iff hindex hstamped
    have horder := hstamped.enumerates_neighbours hindex time
    obtain ⟨there, hthere, hjoined⟩ := hall _ horder a b
    obtain ⟨back, hback, hjoined'⟩ := hall _ horder b a
    refine ⟨there, back, hthere, hback, ?_, ?_⟩
    · rw [Bool.eq_iff_iff, hjoined, hjoined']
      exact ⟨Joined.symm, Joined.symm⟩
    · intro step hstep
      obtain ⟨found, hfound, hjoined''⟩ := hall step hstep a b
      exact ⟨found, hfound, Bool.eq_iff_iff.2 (hjoined''.trans hjoined.symm)⟩
  · intro time a b c
    rw [reaches_iff_joined hindex hstamped, reaches_iff_joined hindex hstamped,
      reaches_iff_joined hindex hstamped]
    exact Joined.trans

end lookups

/-- A link that is fixed and then recorded, one back, and one from a frame to itself. -/
def tangle : List (Command (Pose Float32)) :=
  [.tell ⟨"map", "lidar", none, .identity⟩, .tell ⟨"map", "lidar", some 1, .identity⟩,
    .tell ⟨"lidar", "map", none, .identity⟩, .tell ⟨"lidar", "lidar", some 0, .identity⟩,
    .withTolerance 0]

/-- A minute later only the link back is left. It joins the frames both ways. -/
theorem isCharted_tangle :
    (∀ report, .tell report ∈ tangle → ∀ stamp, report.stamp? = some stamp → IsNumber stamp) ∧
      IsCharted tangle ∧ (after tangle).Reaches 60 "lidar" "map" ∧
      (after tangle).Reaches 60 "map" "lidar" := by
  have hnumbers : ∀ report, .tell report ∈ tangle →
      ∀ stamp, report.stamp? = some stamp → IsNumber stamp := by
    intro report hmem stamp hstamp
    simp only [tangle, List.mem_cons, Command.tell.injEq, reduceCtorEq, List.not_mem_nil,
      or_false] at hmem
    rcases hmem with rfl | rfl | rfl | rfl
    · cases hstamp
    · cases hstamp
      decide +kernel
    · cases hstamp
    · cases hstamp
      decide +kernel
  have hcharted := isCharted_after hnumbers
  have hdown : (after tangle).lookup 60 "lidar" "map" = .ok (some .identity) := by decide +kernel
  obtain ⟨there, back, hthere, hback, hsame, -⟩ := hcharted.symm 60 "map" "lidar"
  obtain rfl := Except.ok.inj (hback.symm.trans hdown)
  obtain ⟨motion, rfl⟩ := Option.isSome_iff_exists.1 hsame
  exact ⟨hnumbers, hcharted, ⟨_, hdown⟩, ⟨motion, hthere⟩⟩

end FrameTree

end CollisionWatch
