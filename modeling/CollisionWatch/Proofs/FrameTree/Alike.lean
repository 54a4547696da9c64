import CollisionWatch.Proofs.FrameTree.Shortest

/-!
# Trees whose links answer alike

What a look-up answers at a time depends on what every link answers at that time, and on nothing
else: not on the order in which the links came, nor on how their samples are kept. Two trees whose
links answer alike have the same neighbours (`Alike.neighbours_eq`) and the same look-ups
(`Alike.lookup_eq`), also if the neighbours are walked in another order (`Alike.lookupBy_eq`).

The bound of the search counts the frames that are kept in the tree. In a tree that was built link by
link these are the ends of its links (`Built.noneEmpty`).
-/

namespace CollisionWatch

/-- Filtering with an effect runs the effects of the items. -/
theorem filterMapM_eq_filterMapM_map {α β ε : Type} (f : α → Except ε (Option β)) (xs : List α) :
    xs.filterMapM f = (xs.map f).filterMapM id := by
  induction xs with
  | nil => rfl
  | cons x rest ih =>
    rw [List.map_cons, List.filterMapM_cons, List.filterMapM_cons, ih]
    rfl

/-- Where the effects are the same, so is what comes of them. -/
theorem filterMapM_congr {α β γ ε : Type} {f : α → Except ε (Option γ)}
    {g : β → Except ε (Option γ)} {xs : List α} {ys : List β} (h : xs.map f = ys.map g) :
    xs.filterMapM f = ys.filterMapM g := by
  rw [filterMapM_eq_filterMapM_map, h, ← filterMapM_eq_filterMapM_map]

namespace FrameTree

variable {T : Type}

/-- Every frame that is kept in a tree is an end of a link. -/
theorem Built.noneEmpty {allowed : Float → Prop} {tree : FrameTree T} (h : tree.Built allowed) :
    tree.links.NoneEmpty ∧ tree.parents.NoneEmpty := by
  have hlink : ∀ {tree : FrameTree T}, tree.links.NoneEmpty ∧ tree.parents.NoneEmpty →
      ∀ parent child link, (tree.setLink parent child link).links.NoneEmpty ∧
        (tree.setLink parent child link).parents.NoneEmpty :=
    fun h parent child link => ⟨h.1.insert parent child link, h.2.insert child parent ()⟩
  induction h with
  | new => exact ⟨nofun, nofun⟩
  | withTolerance seconds _ ih => exact ih
  | withHistory length _ ih => exact ih
  | setFixed parent child motion _ ih => exact hlink ih parent child _
  | record parent child motion _ _ ih => exact hlink ih parent child _

variable [Motion T] {tree other : FrameTree T} {time : Float}

/-- The links of two trees answer alike at a time. -/
def Alike (tree other : FrameTree T) (time : Float) : Prop :=
  ∀ u v, (tree.link? u v).map (·.at? time tree.tolerance) =
    (other.link? u v).map (·.at? time other.tolerance)

namespace Alike

variable (h : tree.Alike other time)

include h

/-- Alike trees link the same frames. -/
theorem isSome_link?_eq (u v : String) : (tree.link? u v).isSome = (other.link? u v).isSome := by
  have hanswers := congrArg Option.isSome (h u v)
  rwa [Option.isSome_map, Option.isSome_map] at hanswers

/-- Alike trees keep the same frames as parents. -/
theorem hasParent_iff (hindex : tree.Indexed) (hother : other.Indexed) (u v : String) :
    tree.HasParent u v ↔ other.HasParent u v := by
  rw [hindex u v, hother u v, h.isSome_link?_eq]

/-- The frames below a frame are the same. -/
theorem children_eq (frame : String) : tree.children time frame = other.children time frame := by
  refine filterMapM_congr (NameMap.map_entries_eq fun child => ?_)
  have hanswers := congrArg (Option.map fun answer : Except Crash (Option T) => do
    return (← answer).map (child, ·)) (h frame child)
  rw [Option.map_map, Option.map_map] at hanswers
  rw [NameMap.get?_getD_empty, NameMap.get?_getD_empty]
  exact hanswers

/-- The frames above a frame are the same. -/
theorem ancestors_eq (hindex : tree.Indexed) (hother : other.Indexed) (frame : String) :
    tree.ancestors time frame = other.ancestors time frame := by
  refine filterMapM_congr (NameMap.map_entries_eq fun parent => ?_)
  have hparents : (tree.parents.get? frame).bind (·.get? parent) =
      (other.parents.get? frame).bind (·.get? parent) :=
    Option.ext fun _ => h.hasParent_iff hindex hother parent frame
  rw [NameMap.get?_getD_empty, NameMap.get?_getD_empty, hparents]
  refine congrArg (fun f => Option.map f _) (funext fun _ => ?_)
  have hanswers := h parent frame
  cases hlink : tree.link? parent frame with
  | none =>
    rw [hlink] at hanswers
    have hnone := Option.map_eq_none_iff.1 hanswers.symm
    dsimp only
    rw [hlink, hnone]
  | some link =>
    rw [hlink] at hanswers
    obtain ⟨link', hlink', hat⟩ := Option.map_eq_some_iff.1 hanswers.symm
    dsimp only
    rw [hlink, hlink']
    dsimp only at hat ⊢
    rw [hat]

/-- The neighbours of a frame are the same. -/
theorem neighbours_eq (hindex : tree.Indexed) (hother : other.Indexed) :
    tree.neighbours time = other.neighbours time := by
  funext frame
  rw [neighbours, neighbours, h.children_eq, h.ancestors_eq hindex hother]

variable {allowed : Float → Prop} (htree : tree.Built allowed) (hother : other.Built allowed)

include htree hother

/-- Alike trees keep as many frames. -/
theorem frameBound_eq : tree.frameBound = other.frameBound := by
  have hlinks : tree.links.names = other.links.names := NameMap.names_eq fun u => by
    rw [Bool.eq_iff_iff, htree.noneEmpty.1.isSome_get?_iff, hother.noneEmpty.1.isSome_get?_iff]
    exact exists_congr fun v => Bool.eq_iff_iff.1 (h.isSome_link?_eq u v)
  have hparents : tree.parents.names = other.parents.names := NameMap.names_eq fun v => by
    rw [Bool.eq_iff_iff, htree.noneEmpty.2.isSome_get?_iff, hother.noneEmpty.2.isSome_get?_iff]
    refine exists_congr fun u => ?_
    rw [Option.isSome_iff_exists, Option.isSome_iff_exists]
    exact exists_congr fun _ => h.hasParent_iff htree.indexed hother.indexed u v
  have hsize : ∀ {β : Type} (m : NameMap β), m.size = m.names.length := fun m =>
    (List.length_map _).symm
  rw [frameBound, frameBound, hsize, hsize, hsize, hsize, hlinks, hparents]

/-- **Look-ups are the same.** -/
theorem lookup_eq (target source : String) :
    tree.lookup time target source = other.lookup time target source := by
  rw [lookup, lookup, h.neighbours_eq htree.indexed hother.indexed,
    h.frameBound_eq htree hother]

/-- **Look-ups are the same in whatever order the neighbours are walked.** -/
theorem lookupBy_eq {step : String → Except Crash (List (String × T))} (target source : String) :
    (tree.Enumerates time step ↔ other.Enumerates time step) ∧
      tree.lookupBy step target source = other.lookupBy step target source := by
  refine ⟨forall_congr' fun u => ?_, ?_⟩
  · rw [h.children_eq, h.ancestors_eq htree.indexed hother.indexed]
  · rw [lookupBy, lookupBy, h.frameBound_eq htree hother]

end Alike

end FrameTree

end CollisionWatch
