import CollisionWatch.Proofs.FrameTree.Growth
import Mathlib.Combinatorics.SimpleGraph.Acyclic

/-!
# Trees of frames that are forests

The links of a tree of frames are the edges of a graph (`graph`). Nothing keeps the links from
running in circles, from a frame to itself or both ways between two frames; where they do not, the
tree is a forest (`IsForest`). A tree without links is one, and it stays one while links are added
between frames that nothing joins yet (`IsForest.setLink`), for instance to a frame that is new to
the tree (`IsForest.setLink_of_not_linked`), and while links are replaced.
-/

namespace CollisionWatch.FrameTree

variable {T : Type} {tree : FrameTree T}

/-- There is a link from `u` down to `v`. -/
def Linked (tree : FrameTree T) (u v : String) : Prop := (tree.link? u v).isSome = true

/-- The frames as a graph: a link joins two frames whichever way it leads. -/
def graph (tree : FrameTree T) : SimpleGraph String := .fromRel tree.Linked

/-- The links run in no circle, from no frame to itself and only one way between two frames. -/
structure IsForest (tree : FrameTree T) : Prop where
  /-- There is no cycle of links. -/
  isAcyclic : tree.graph.IsAcyclic
  /-- No frame is linked to itself. -/
  not_linked_self : ∀ u, ¬ tree.Linked u u
  /-- No two frames are linked both ways. -/
  one_way : ∀ u v, tree.Linked u v → ¬ tree.Linked v u

/-- A link joins its frames. -/
theorem IsForest.adj (h : tree.IsForest) {u v : String} (hlinked : tree.Linked u v) :
    tree.graph.Adj u v := by
  rw [graph, SimpleGraph.fromRel_adj]
  refine ⟨?_, .inl hlinked⟩
  rintro rfl
  exact h.not_linked_self u hlinked

/-- A tree without links is a forest. -/
theorem isForest_empty : IsForest ({} : FrameTree T) := by
  have hnone : ∀ u v, ¬ Linked ({} : FrameTree T) u v := fun u v => by simp [Linked, link?]
  have hgraph : graph ({} : FrameTree T) = ⊥ := by
    ext u v
    simp [graph, hnone]
  refine ⟨?_, fun u => hnone u u, fun u v h => absurd h (hnone u v)⟩
  rw [hgraph]
  exact SimpleGraph.isAcyclic_bot

/-- A new link is one more. -/
theorem linked_setLink (parent child : String) (link : Link T) (u v : String) :
    (tree.setLink parent child link).Linked u v ↔
      (u = parent ∧ v = child) ∨ tree.Linked u v := by
  unfold Linked
  rw [link?_setLink]
  by_cases hnew : u = parent ∧ v = child
  · simp [hnew]
  · simp [hnew]

/-- A new link is one more edge. -/
theorem graph_setLink (parent child : String) (link : Link T) :
    (tree.setLink parent child link).graph = tree.graph ⊔ .edge parent child := by
  ext u v
  simp only [graph, SimpleGraph.fromRel_adj, linked_setLink, SimpleGraph.sup_adj,
    SimpleGraph.edge_adj]
  tauto

/-- **A link between frames that nothing joins, or only an edge of their own, keeps a forest.** -/
theorem IsForest.setLink (h : tree.IsForest) {parent child : String} (hne : parent ≠ child)
    (hback : ¬ tree.Linked child parent)
    (hjoined : tree.graph.Reachable parent child → tree.Linked parent child) (link : Link T) :
    (tree.setLink parent child link).IsForest := by
  constructor
  · rw [graph_setLink, SimpleGraph.isAcyclic_sup_fromEdgeSet_iff]
    exact ⟨h.isAcyclic, fun hreach => .inr (h.adj (hjoined hreach))⟩
  · intro u hself
    rcases (linked_setLink parent child link u u).1 hself with ⟨rfl, rfl⟩ | hold
    · exact hne rfl
    · exact h.not_linked_self u hold
  · intro u v hdown hup
    rw [linked_setLink] at hdown hup
    rcases hdown with ⟨rfl, rfl⟩ | hdown
    · rcases hup with ⟨heq, -⟩ | hup
      · exact hne heq.symm
      · exact hback hup
    · rcases hup with ⟨rfl, rfl⟩ | hup
      · exact hback hdown
      · exact h.one_way u v hdown hup

/-- A link to a frame that no link touches keeps a forest. -/
theorem IsForest.setLink_of_not_linked (h : tree.IsForest) {parent child : String}
    (hne : parent ≠ child) (hnew : ∀ u, ¬ tree.Linked u child ∧ ¬ tree.Linked child u)
    (link : Link T) : (tree.setLink parent child link).IsForest := by
  refine h.setLink hne (hnew parent).2 (fun hreach => ?_) link
  obtain ⟨u, hadj⟩ := hreach.nonempty_neighborSet_right hne
  rw [SimpleGraph.mem_neighborSet, graph, SimpleGraph.fromRel_adj] at hadj
  rcases hadj.2 with hdown | hup
  · exact absurd hdown (hnew u).2
  · exact absurd hup (hnew u).1

end CollisionWatch.FrameTree
