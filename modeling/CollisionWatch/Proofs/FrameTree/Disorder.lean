import CollisionWatch.Proofs.FrameTree.Shortest

/-!
# Look-ups whatever the stamps

Nothing keeps a motion from being recorded at a time that is no number. Such a stamp is in no order
with any other, so a history that holds one need not be in order. A look-up still answers, and
answers rightly, as long as every history starts with a number (`exists_lookup_and_resolve`): a
stamp that is no number does no harm behind the first place. In the first place it does harm: the
search for the samples around a time then finds no sample before it (`lookup_undated`).

What a look-up can come to is said once, in `lookup_cases`.
-/

namespace CollisionWatch.FrameTree

variable {T : Type} [Motion T] {tree : FrameTree T} {time : Float}

/-- Among the neighbours of a frame the first entry of another one is the hop to it. -/
theorem lookup_neighbours_eq_some_iff (hindex : tree.Indexed) {u : String}
    {neighbours : List (String × T)} (h : tree.neighbours time u = .ok neighbours) (v : String)
    (motion : T) : neighbours.lookup v = some motion ↔ tree.Hop time u v motion := by
  unfold FrameTree.neighbours at h
  cases hbelow : tree.children time u with
  | error crash =>
    rw [hbelow] at h
    cases h
  | ok below =>
    cases habove : tree.ancestors time u with
    | error crash =>
      rw [hbelow, habove] at h
      cases h
    | ok above =>
      rw [hbelow, habove] at h
      obtain rfl : below ++ above = neighbours := Except.ok.inj h
      exact lookup_append_eq_some_iff (mem_children_iff hbelow) (mem_ancestors_iff hindex habove)
        v motion

/-- The neighbours of a frame can be listed unless a link cannot be sampled. -/
theorem breaks_of_neighbours_eq_error {u : String} {crash : Crash}
    (h : tree.neighbours time u = .error crash) : tree.Breaks time crash := by
  unfold FrameTree.neighbours at h
  cases hbelow : tree.children time u with
  | error crash' =>
    rw [hbelow] at h
    obtain rfl : crash' = crash := Except.error.inj h
    exact breaks_of_children_eq_error hbelow
  | ok below =>
    cases habove : tree.ancestors time u with
    | error crash' =>
      rw [hbelow, habove] at h
      obtain rfl : crash' = crash := Except.error.inj h
      exact breaks_of_ancestors_eq_error habove
    | ok above =>
      rw [hbelow, habove] at h
      cases h

/-- **A look-up finds a shortest chain, or that there is none, or it comes by a link that cannot be
sampled.** -/
theorem lookup_cases (hindex : tree.Indexed) (time : Float) {target source : String}
    (hne : target ≠ source) :
    (∃ answer, tree.lookup time target source = .ok answer ∧
      IsShortestAnswer (tree.Hop time) target source answer) ∨
    ∃ crash, tree.Breaks time crash ∧ tree.lookup time target source = .error crash := by
  rw [lookup_eq_lookupBy]
  have hhops : ∀ u neighbours, tree.neighbours time u = .ok neighbours →
      ∀ v motion, neighbours.lookup v = some motion ↔ tree.Hop time u v motion :=
    fun u neighbours hu => lookup_neighbours_eq_some_iff hindex hu
  rcases lookupBy_cases hindex hhops hne with hanswer | ⟨u, crash, hfail, hcrash⟩
  · exact .inl hanswer
  · exact .inr ⟨crash, breaks_of_neighbours_eq_error hfail, hcrash⟩

/-- **Whatever the stamps, a look-up answers as it should, and a motion is resolved or missed, as
long as no history starts with a stamp that is no number.** -/
theorem exists_lookup_and_resolve (hbuilt : tree.Built fun _ => True)
    (hstart : tree.StartsWithNumbers) (time : Float) (target source : String) :
    ∃ answer, tree.lookup time target source = .ok answer ∧
      tree.resolve time target source =
        .ok (answer.elim (.error (.unresolved time target source)) .ok) ∧
      (target ≠ source → IsShortestAnswer (tree.Hop time) target source answer) := by
  by_cases hne : target = source
  · have hlookup : tree.lookup time target source = .ok (some Motion.identity) := if_pos hne.symm
    exact ⟨_, hlookup, resolve_of_lookup hlookup, fun h => absurd hne h⟩
  · rcases lookup_cases hbuilt.indexed time hne with
      ⟨answer, hlookup, hshortest⟩ | ⟨crash, hbreaks, -⟩
    · exact ⟨answer, hlookup, resolve_of_lookup hlookup, fun _ => hshortest⟩
    · exact absurd hbreaks (hstart.not_breaks time crash)

/-- A link recorded at the times one, none and zero, in this order. -/
def misdated : FrameTree (Pose Float32) :=
  ((FrameTree.record {} "map" "lidar" 1 Pose.identity).record "map" "lidar" (0 / 0)
    Pose.identity).record "map" "lidar" 0 Pose.identity

/-- The sample at no time stands behind the one at zero and does no harm. -/
theorem startsWithNumbers_misdated : misdated.StartsWithNumbers := by
  intro u v history hlink
  unfold misdated FrameTree.record at hlink
  simp only [link?_setLink] at hlink
  split at hlink
  · obtain rfl := Link.recorded.inj (Option.some.inj hlink)
    unfold History.StartsWithNumber
    decide +kernel
  · simp [link?] at hlink

/-- Between the times zero and one the link is in use. -/
theorem exists_lookup_misdated :
    misdated.Built (fun _ => True) ∧ misdated.StartsWithNumbers ∧
      ∃ answer, misdated.lookup 0.5 "map" "lidar" = .ok answer ∧
        IsShortestAnswer (misdated.Hop 0.5) "map" "lidar" answer := by
  have hbuilt : misdated.Built fun _ => True :=
    .record "map" "lidar" _ trivial (.record "map" "lidar" _ trivial
      (.record "map" "lidar" _ trivial .new))
  obtain ⟨answer, hlookup, -, hshortest⟩ :=
    exists_lookup_and_resolve hbuilt startsWithNumbers_misdated 0.5 "map" "lidar"
  exact ⟨hbuilt, startsWithNumbers_misdated, answer, hlookup, hshortest (by decide)⟩

/-- A link recorded once, at no time. -/
def undated : FrameTree (Pose Float32) := FrameTree.record {} "map" "lidar" (0 / 0) Pose.identity

/-- **A history that starts with a stamp that is no number makes a look-up crash.** -/
theorem lookup_undated :
    undated.Built (fun _ => True) ∧
      undated.lookup 0 "map" "lidar" = .error .disorderedSamples ∧
      undated.resolve 0 "map" "lidar" = .error .disorderedSamples := by
  have hbuilt : undated.Built fun _ => True := .record "map" "lidar" _ trivial .new
  have hlookup : undated.lookup 0 "map" "lidar" = .error .disorderedSamples := by decide +kernel
  refine ⟨hbuilt, hlookup, ?_⟩
  rw [resolve, hlookup]
  rfl

end CollisionWatch.FrameTree
