import CollisionWatch.Geometry.Pose
import Mathlib.Order.Nat

/-!
# Chains of hops

A graph of frames is given by its hops: from which frame to which, and by which motion. A chain
leads from a start over hops to a frame and has a list of motions, one for each hop. `IsDistance`
says that the shortest chain to a frame has so many hops. The frames at a distance lie in layers:
a frame one layer further out is one hop away from a frame in the layer before
(`IsDistance.exists_hop`), and no layer is left out on the way to a frame
(`IsDistance.exists_of_le`).

What a search from the start to a frame should answer is `IsShortestAnswer`: nothing if no chain
leads there, and otherwise the motions of a shortest chain composed from left to right.
-/

namespace CollisionWatch

variable {T : Type}

/-- A chain of hops from the start to a frame, with the motions of its hops. -/
inductive Chain (hop : String → String → T → Prop) (start : String) : String → List T → Prop where
  /-- No hop leads to the start. -/
  | origin : Chain hop start start []
  /-- One more hop. -/
  | extend {u v : String} {motions : List T} {motion : T} :
      Chain hop start u motions → hop u v motion → Chain hop start v (motions ++ [motion])

/-- A shortest chain from the start to the frame has this many hops. -/
structure IsDistance (hop : String → String → T → Prop) (start frame : String) (n : Nat) :
    Prop where
  /-- There is a chain of this length. -/
  exists_chain : ∃ motions, Chain hop start frame motions ∧ motions.length = n
  /-- There is none that is shorter. -/
  le_length : ∀ motions, Chain hop start frame motions → n ≤ motions.length

/-- The motion of a shortest chain to a frame, found after this many hops. -/
structure IsReached [Motion T] (hop : String → String → T → Prop) (start : String) (n : Nat)
    (found : String × T) : Prop where
  /-- A chain of this length has this motion. -/
  exists_chain : ∃ motions, Chain hop start found.1 motions ∧ motions.length = n ∧
    found.2 = motions.foldl Motion.compose Motion.identity
  /-- There is no shorter chain. -/
  le_length : ∀ motions, Chain hop start found.1 motions → n ≤ motions.length

/-- What a search for a frame answers: nothing if no chain leads to it, and otherwise the motions of
a shortest chain, composed from left to right. -/
structure IsShortestAnswer [Motion T] (hop : String → String → T → Prop) (start frame : String)
    (answer : Option T) : Prop where
  /-- There is an answer exactly if there is a chain. -/
  isSome_iff : answer.isSome = true ↔ ∃ motions, Chain hop start frame motions
  /-- The answer is the motion of a shortest chain. -/
  shortest : ∀ motion, answer = some motion → ∃ motions, Chain hop start frame motions ∧
    (∀ others, Chain hop start frame others → motions.length ≤ others.length) ∧
    motion = motions.foldl Motion.compose Motion.identity

/-- A chain to another frame that has one hop at most is a hop there. -/
theorem Chain.exists_hop_of_length_le_one {hop : String → String → T → Prop} {u v : String}
    {motions : List T} (h : Chain hop u v motions) (hlength : motions.length ≤ 1) (hne : u ≠ v) :
    ∃ motion, motions = [motion] ∧ hop u v motion := by
  cases h with
  | origin => exact absurd rfl hne
  | extend hothers hhop =>
    rw [List.length_append, List.length_singleton] at hlength
    cases hothers with
    | origin => exact ⟨_, rfl, hhop⟩
    | extend =>
      rw [List.length_append, List.length_singleton] at hlength
      omega

namespace IsDistance

variable {hop : String → String → T → Prop} {start : String}

/-- A frame has one distance. -/
theorem unique {frame : String} {m n : Nat} (hm : IsDistance hop start frame m)
    (hn : IsDistance hop start frame n) : m = n := by
  obtain ⟨ms, hms, rfl⟩ := hm.exists_chain
  obtain ⟨ns, hns, rfl⟩ := hn.exists_chain
  exact Nat.le_antisymm (hm.le_length ns hns) (hn.le_length ms hms)

/-- Only the start is at no distance. -/
theorem eq_start {frame : String} (h : IsDistance hop start frame 0) : frame = start := by
  obtain ⟨motions, hchain, hlength⟩ := h.exists_chain
  cases hchain with
  | origin => rfl
  | extend _ _ => simp at hlength

/-- A frame to which a chain leads has a distance. -/
theorem exists_of_chain {frame : String} {motions : List T} (h : Chain hop start frame motions) :
    ∃ n, IsDistance hop start frame n := by
  classical
  have hex : ∃ n, ∃ motions, Chain hop start frame motions ∧ motions.length = n :=
    ⟨_, motions, h, rfl⟩
  refine ⟨Nat.find hex, Nat.find_spec hex, fun others hothers => ?_⟩
  exact Nat.find_min' hex ⟨others, hothers, rfl⟩

/-- A frame beyond the start is one hop away from a frame in the layer before. -/
theorem exists_hop {v : String} {n : Nat} (h : IsDistance hop start v (n + 1)) :
    ∃ u motion, IsDistance hop start u n ∧ hop u v motion := by
  obtain ⟨motions, hchain, hlength⟩ := h.exists_chain
  cases hchain with
  | origin => simp at hlength
  | @extend u _ motions motion hchain hhop =>
    have hn : motions.length = n := by simpa using hlength
    refine ⟨u, motion, ⟨⟨motions, hchain, hn⟩, fun others hothers => ?_⟩, hhop⟩
    simpa using h.le_length _ (hothers.extend hhop)

/-- Every layer up to that of a frame has a frame in it. -/
theorem exists_of_le {v : String} {m n : Nat} (h : IsDistance hop start v n) (hmn : m ≤ n) :
    ∃ u, IsDistance hop start u m := by
  induction n generalizing v with
  | zero =>
    obtain rfl : m = 0 := by omega
    exact ⟨v, h⟩
  | succ n ih =>
    rcases Nat.lt_or_eq_of_le hmn with hlt | rfl
    · obtain ⟨u, _, hu, _⟩ := h.exists_hop
      exact ih hu (by omega)
    · exact ⟨v, h⟩

end IsDistance

namespace IsReached

variable [Motion T] {hop : String → String → T → Prop} {start : String} {n : Nat}

/-- A frame that is reached after `n` hops is at the distance `n`. -/
theorem isDistance {found : String × T} (h : IsReached hop start n found) :
    IsDistance hop start found.1 n := by
  obtain ⟨motions, hchain, hlength, _⟩ := h.exists_chain
  exact ⟨⟨motions, hchain, hlength⟩, h.le_length⟩

/-- The start is reached at once. -/
theorem origin (hop : String → String → T → Prop) (start : String) :
    IsReached hop start 0 (start, Motion.identity) :=
  ⟨⟨[], .origin, rfl, rfl⟩, fun _ _ => Nat.zero_le _⟩

/-- One hop from a frame that is reached, to a frame that is no closer. -/
theorem extend {u v : String} {reached step : T} (h : IsReached hop start n (u, reached))
    (hhop : hop u v step)
    (hfar : ∀ m, IsDistance hop start v m → n < m) :
    IsReached hop start (n + 1) (v, Motion.compose reached step) := by
  obtain ⟨motions, hchain, rfl, hmotion⟩ := h.exists_chain
  have hmotion : reached = motions.foldl Motion.compose Motion.identity := hmotion
  refine ⟨⟨motions ++ [step], hchain.extend hhop, by simp, ?_⟩, fun others hothers => ?_⟩
  · rw [List.foldl_append, hmotion]
    rfl
  · obtain ⟨m, hm⟩ := IsDistance.exists_of_chain hothers
    have hlt := hfar m hm
    have hle := hm.le_length others hothers
    omega

/-- A motion that is reached answers a search. -/
theorem isShortestAnswer {found : String × T} (h : IsReached hop start n found) :
    IsShortestAnswer hop start found.1 (some found.2) := by
  obtain ⟨motions, hchain, rfl, hmotion⟩ := h.exists_chain
  refine ⟨⟨fun _ => ⟨motions, hchain⟩, fun _ => rfl⟩, fun motion heq => ?_⟩
  obtain rfl := Option.some.inj heq
  exact ⟨motions, hchain, h.le_length, hmotion⟩

end IsReached

end CollisionWatch
