import Mathlib.Combinatorics.SimpleGraph.Acyclic

/-!
# Bearings in a forest

Let every edge of a graph carry an element of a group, and its inverse when it is walked the other
way. The gain of a walk is the product of what its edges carry. In a forest two vertices are joined
by one path at most, and the bearing of the second from the first is the gain of that path. One more
edge multiplies the bearing by what it carries, whether the path grows by the edge or loses it
(`bearing_adj`). So bearings multiply (`bearing_mul`), however the paths overlap.
-/

namespace CollisionWatch

variable {V G : Type} [Group G] {graph : SimpleGraph V}

/-- The product of what the edges of a walk carry. -/
def gain (turn : V → V → G) : {u v : V} → graph.Walk u v → G
  | _, _, .nil => 1
  | u, _, .cons (v := v) _ rest => turn u v * gain turn rest

/-- One more edge at the end of a walk. -/
theorem gain_concat (turn : V → V → G) {u v w : V} (p : graph.Walk u v) (h : graph.Adj v w) :
    gain turn (p.concat h) = gain turn p * turn v w := by
  induction p with
  | nil =>
    rw [SimpleGraph.Walk.concat_nil]
    simp [gain]
  | cons hadj rest ih =>
    rw [SimpleGraph.Walk.concat_cons]
    simp only [gain, ih, mul_assoc]

open Classical in
/-- The gain of a path from one vertex to another, if there is one. -/
noncomputable def bearing (graph : SimpleGraph V) (turn : V → V → G) (u v : V) : G :=
  if h : graph.Reachable u v then gain turn h.some.bypass else 1

/-- In a forest the bearing is the gain of every path. -/
theorem bearing_eq_gain (hforest : graph.IsAcyclic) (turn : V → V → G) {u v : V}
    {p : graph.Walk u v} (hp : p.IsPath) : bearing graph turn u v = gain turn p := by
  classical
  have hreach : graph.Reachable u v := ⟨p⟩
  have hunique := (hforest.subsingleton_path u v).elim ⟨_, hreach.some.bypass_isPath⟩ ⟨p, hp⟩
  rw [bearing, dif_pos hreach]
  exact congrArg (gain turn) (congrArg Subtype.val hunique)

/-- From a vertex to itself nothing turns. -/
theorem bearing_self (hforest : graph.IsAcyclic) (turn : V → V → G) (u : V) :
    bearing graph turn u u = 1 :=
  bearing_eq_gain hforest turn SimpleGraph.Walk.IsPath.nil

section

variable {turn : V → V → G} (hforest : graph.IsAcyclic)
  (hturn : ∀ u v, graph.Adj u v → turn v u = (turn u v)⁻¹)

include hforest hturn

/-- One more edge. -/
theorem bearing_adj {a u v : V} (hreach : graph.Reachable a u) (hadj : graph.Adj u v) :
    bearing graph turn a v = bearing graph turn a u * turn u v := by
  obtain ⟨p, hp⟩ := hreach.exists_isPath
  obtain ⟨q, hq⟩ := (hreach.trans hadj.reachable).exists_isPath
  rw [bearing_eq_gain hforest turn hp, bearing_eq_gain hforest turn hq]
  -- either the path to `u` goes on to `v`, or it came from there
  by_cases hmem : u ∈ q.support
  · rw [hforest.path_concat hp hq hadj hmem, gain_concat]
  · have hback : v ∈ p.support :=
      hforest.mem_support_of_ne_mem_support_of_adj_of_isPath hp hq hadj hmem
    rw [hforest.path_concat hq hp hadj.symm hback, gain_concat, hturn u v hadj, mul_assoc,
      inv_mul_cancel, mul_one]

/-- **Bearings multiply**, even where the second path walks back along the first. -/
theorem bearing_mul {a b c : V} (hab : graph.Reachable a b) (hbc : graph.Reachable b c) :
    bearing graph turn a c = bearing graph turn a b * bearing graph turn b c := by
  obtain ⟨p⟩ := hbc
  induction p generalizing a with
  | nil => rw [bearing_self hforest, mul_one]
  | @cons b v c hadj rest ih =>
    calc bearing graph turn a c
        = bearing graph turn a v * bearing graph turn v c := ih (hab.trans hadj.reachable)
      _ = bearing graph turn a b * turn b v * bearing graph turn v c := by
        rw [bearing_adj hforest hturn hab hadj]
      _ = bearing graph turn a b * (bearing graph turn b v * bearing graph turn v c) := by
        rw [bearing_adj hforest hturn (.refl b) hadj, bearing_self hforest, one_mul, mul_assoc]
      _ = bearing graph turn a b * bearing graph turn b c := by
        rw [ih hadj.reachable]

/-- The bearing back is the inverse. -/
theorem bearing_inv {a b : V} (hab : graph.Reachable a b) :
    bearing graph turn b a = (bearing graph turn a b)⁻¹ := by
  apply eq_inv_of_mul_eq_one_right
  rw [← bearing_mul hforest hturn hab hab.symm, bearing_self hforest]

end

end CollisionWatch
