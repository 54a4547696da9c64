import CollisionWatch.FrameTree.Lookup
import CollisionWatch.Proofs.FrameTree.Chain
import Mathlib.Data.List.Nodup
import Mathlib.Data.List.Perm.Subperm

/-!
# The search along shortest chains

`search` takes frames from a queue and looks at their neighbours. Its queue always holds frames of
two neighbouring layers, the nearer ones first (`Frontier`); everything nearer has been seen, and
what has not been seen in the next layer is a neighbour of a frame in the queue. One step keeps this
(`Frontier.expand`), so the first time the search comes by a frame it has come by a shortest chain.
Only a frame whose neighbours cannot be listed makes the search fail (`search_cases`).

The search is counted in steps. It takes every frame from its queue at most once, so a step for
every frame of the graph is enough.
-/

namespace CollisionWatch.FrameTree

variable {T : Type}

/-- A function that lists the neighbours of every frame: the first entry of a frame among the
neighbours of another one is the hop between them. -/
def ListsHops (hop : String → String → T → Prop)
    (step : String → Except Crash (List (String × T))) : Prop :=
  ∀ u, ∃ neighbours, step u = .ok neighbours ∧
    ∀ v motion, neighbours.lookup v = some motion ↔ hop u v motion

variable [Motion T] {source : String} {reached : T}

/-! ## A look at the neighbours -/

/-- What has come of a look at the neighbours of a frame, when the source was not among them. -/
structure IsOnward (source : String) (reached : T) (neighbours : List (String × T))
    (seen seen' : List String) (new : List (String × T)) : Prop where
  /-- The new frames have been seen now. -/
  seen_eq : seen' = (new.map Prod.fst).reverse ++ seen
  /-- A new frame is a neighbour that had not been seen, and is reached by the hop to it. -/
  of_mem : ∀ found ∈ new, found.1 ∉ seen ∧
    ∃ step, neighbours.lookup found.1 = some step ∧ found.2 = Motion.compose reached step
  /-- All neighbours have been seen now. -/
  mem_of_lookup : ∀ v step, neighbours.lookup v = some step → v ∈ seen'
  /-- The source is not new. -/
  source_not_mem : source ∉ new.map Prod.fst
  /-- No frame is new twice. -/
  nodup : (new.map Prod.fst).Nodup

/-- No frame has been seen twice. -/
theorem IsOnward.nodup_seen {neighbours : List (String × T)} {seen seen' : List String}
    {new : List (String × T)} (h : IsOnward source reached neighbours seen seen' new)
    (hseen : seen.Nodup) : seen'.Nodup := by
  rw [h.seen_eq, List.nodup_append]
  refine ⟨List.nodup_reverse.2 h.nodup, hseen, ?_⟩
  rintro v hv _ hold rfl
  obtain ⟨found, hfound, rfl⟩ := List.mem_map.1 (List.mem_reverse.1 hv)
  exact (h.of_mem found hfound).1 hold

/-- A neighbour that was seen before adds nothing. -/
theorem IsOnward.cons_seen {frame : String} {step : T} {rest : List (String × T)}
    {seen seen' : List String} {new : List (String × T)}
    (h : IsOnward source reached rest seen seen' new) (hseen : frame ∈ seen) :
    IsOnward source reached ((frame, step) :: rest) seen seen' new where
  seen_eq := h.seen_eq
  of_mem found hfound := by
    obtain ⟨hnot, step', hlookup, hmotion⟩ := h.of_mem found hfound
    have hne : (found.1 == frame) = false := beq_false_of_ne fun heq => hnot (heq ▸ hseen)
    exact ⟨hnot, step', by rw [List.lookup_cons, hne]; exact hlookup, hmotion⟩
  mem_of_lookup v step' hlookup := by
    rw [List.lookup_cons] at hlookup
    split at hlookup
    · rename_i heq
      rw [h.seen_eq, eq_of_beq heq]
      exact List.mem_append_right _ hseen
    · exact h.mem_of_lookup v step' hlookup
  source_not_mem := h.source_not_mem
  nodup := h.nodup

/-- A neighbour that is new. -/
theorem IsOnward.cons_new {frame : String} {step : T} {rest : List (String × T)}
    {seen seen' : List String} {new : List (String × T)}
    (h : IsOnward source reached rest (frame :: seen) seen' new) (hnot : frame ∉ seen)
    (hsource : frame ≠ source) :
    IsOnward source reached ((frame, step) :: rest) seen seen'
      ((frame, Motion.compose reached step) :: new) where
  seen_eq := by simp [h.seen_eq]
  of_mem found hfound := by
    rcases List.mem_cons.1 hfound with rfl | hfound
    · exact ⟨hnot, step, by simp, rfl⟩
    · obtain ⟨hnot', step', hlookup, hmotion⟩ := h.of_mem found hfound
      obtain ⟨hne, hold⟩ := List.ne_and_not_mem_of_not_mem_cons hnot'
      refine ⟨hold, step', ?_, hmotion⟩
      rw [List.lookup_cons, beq_false_of_ne hne]
      exact hlookup
  mem_of_lookup v step' hlookup := by
    rw [List.lookup_cons] at hlookup
    split at hlookup
    · rename_i heq
      rw [h.seen_eq, eq_of_beq heq]
      exact List.mem_append_right _ List.mem_cons_self
    · exact h.mem_of_lookup v step' hlookup
  source_not_mem := by
    rw [List.map_cons, List.mem_cons, not_or]
    exact ⟨hsource.symm, h.source_not_mem⟩
  nodup := by
    rw [List.map_cons, List.nodup_cons]
    refine ⟨fun hmem => ?_, h.nodup⟩
    obtain ⟨found, hfound, hfst⟩ := List.mem_map.1 hmem
    exact (h.of_mem found hfound).1 (hfst ▸ List.mem_cons_self)

/-- A look at the neighbours finds the source by the hop to it, or goes on with the new ones. -/
theorem expand_cases (source : String) (reached : T) (neighbours : List (String × T))
    (seen : List String) (fresh : List (String × T)) (hsource : source ∉ seen) :
    (∃ step, neighbours.lookup source = some step ∧
      expand source reached neighbours seen fresh = .arrived (Motion.compose reached step)) ∨
    ∃ seen' new,
      expand source reached neighbours seen fresh = .onward seen' (fresh.reverse ++ new) ∧
      IsOnward source reached neighbours seen seen' new := by
  induction neighbours generalizing seen fresh with
  | nil =>
    refine .inr ⟨seen, [], by simp [expand], ⟨rfl, ?_, ?_, ?_, ?_⟩⟩ <;> simp
  | cons neighbour rest ih =>
    obtain ⟨frame, step⟩ := neighbour
    unfold expand
    by_cases hseen : frame ∈ seen
    · rw [if_pos hseen]
      rcases ih seen fresh hsource with ⟨step', hlookup, harrived⟩ | ⟨seen', new, honward, hnew⟩
      · have hne : (source == frame) = false := beq_false_of_ne fun heq => hsource (heq ▸ hseen)
        exact .inl ⟨step', by rw [List.lookup_cons, hne]; exact hlookup, harrived⟩
      · exact .inr ⟨seen', new, honward, hnew.cons_seen hseen⟩
    · rw [if_neg hseen]
      by_cases hframe : frame = source
      · subst hframe
        exact .inl ⟨step, by simp, by simp⟩
      · dsimp only
        rw [if_neg hframe]
        rcases ih (frame :: seen) ((frame, Motion.compose reached step) :: fresh)
            (List.not_mem_cons_of_ne_of_not_mem (Ne.symm hframe) hsource) with
          ⟨step', hlookup, harrived⟩ | ⟨seen', new, honward, hnew⟩
        · refine .inl ⟨step', ?_, harrived⟩
          rw [List.lookup_cons, beq_false_of_ne (Ne.symm hframe)]
          exact hlookup
        · refine .inr ⟨seen', _, ?_, hnew.cons_new hseen hframe⟩
          rw [honward]
          simp

/-! ## The queue -/

/-- The queue of a search: frames of one layer and then frames of the next one. -/
structure Frontier (hop : String → String → T → Prop) (start source : String) (layer : Nat)
    (seen : List String) (near far : List (String × T)) : Prop where
  /-- The first frames lie in this layer. -/
  near_isReached : ∀ found ∈ near, IsReached hop start layer found
  /-- The others lie in the next one. -/
  far_isReached : ∀ found ∈ far, IsReached hop start (layer + 1) found
  /-- The source has not been seen. -/
  source_not_mem : source ∉ seen
  /-- All frames up to this layer have been seen. -/
  mem_of_le : ∀ v n, IsDistance hop start v n → n ≤ layer → v ∈ seen
  /-- A frame of the next layer has been seen, or is a neighbour of a frame in the queue. -/
  mem_or_hop : ∀ v, IsDistance hop start v (layer + 1) →
    v ∈ seen ∨ ∃ found ∈ near, ∃ motion, hop found.1 v motion
  /-- A frame of the next layer that has been seen is in the queue. -/
  mem_far : ∀ v ∈ seen, IsDistance hop start v (layer + 1) → v ∈ far.map Prod.fst
  /-- No frame beyond the next layer has been seen. -/
  le_of_mem : ∀ v ∈ seen, ∀ n, IsDistance hop start v n → n ≤ layer + 1

section frontier

variable {hop : String → String → T → Prop} {start : String} {layer : Nat} {seen : List String}

/-- A frame that has not been seen lies beyond the layer of the queue. -/
theorem Frontier.lt_of_not_mem {near far : List (String × T)}
    (h : Frontier hop start source layer seen near far) {v : String} (hv : v ∉ seen) {n : Nat}
    (hn : IsDistance hop start v n) : layer < n := by
  by_contra hle
  exact hv (h.mem_of_le v n hn (Nat.le_of_not_lt hle))

/-- The queue at the start of a search. -/
theorem Frontier.origin (hop : String → String → T → Prop) {start source : String}
    (hne : start ≠ source) :
    Frontier hop start source 0 [start] [(start, Motion.identity)] [] where
  near_isReached found hfound := by
    obtain rfl := List.mem_singleton.1 hfound
    exact .origin hop start
  far_isReached found hfound := absurd hfound List.not_mem_nil
  source_not_mem hmem := hne (List.mem_singleton.1 hmem).symm
  mem_of_le v n hn hle := by
    obtain rfl : n = 0 := by omega
    exact List.mem_singleton.2 hn.eq_start
  mem_or_hop v hv := by
    obtain ⟨u, motion, hu, hhop⟩ := hv.exists_hop
    obtain rfl := hu.eq_start
    exact .inr ⟨_, List.mem_singleton_self _, motion, hhop⟩
  mem_far v hv hdist := by
    obtain rfl := List.mem_singleton.1 hv
    exact absurd (hdist.unique (IsReached.origin hop v).isDistance) (by omega)
  le_of_mem v hv n hn := by
    obtain rfl := List.mem_singleton.1 hv
    rw [hn.unique (IsReached.origin hop v).isDistance]
    omega

/-- When a layer is used up, the next one takes its place. -/
theorem Frontier.advance {far : List (String × T)}
    (h : Frontier hop start source layer seen [] far) :
    Frontier hop start source (layer + 1) seen far [] where
  near_isReached := h.far_isReached
  far_isReached found hfound := absurd hfound List.not_mem_nil
  source_not_mem := h.source_not_mem
  mem_of_le v n hn hle := by
    rcases Nat.lt_or_eq_of_le hle with hlt | rfl
    · exact h.mem_of_le v n hn (by omega)
    · simpa using h.mem_or_hop v hn
  mem_or_hop v hv := by
    obtain ⟨u, motion, hu, hhop⟩ := hv.exists_hop
    have hseen : u ∈ seen := by simpa using h.mem_or_hop u hu
    obtain ⟨found, hfound, rfl⟩ := List.mem_map.1 (h.mem_far u hseen hu)
    exact .inr ⟨found, hfound, motion, hhop⟩
  mem_far v hv hdist := absurd (h.le_of_mem v hv _ hdist) (by omega)
  le_of_mem v hv n hn := Nat.le_succ_of_le (h.le_of_mem v hv n hn)

/-- The queue starts with a frame of its layer, unless it is empty. -/
theorem Frontier.exists_near {near far : List (String × T)}
    (h : Frontier hop start source layer seen near far) :
    ∃ layer' near' far', near ++ far = near' ++ far' ∧
      Frontier hop start source layer' seen near' far' ∧ (near' = [] → far' = []) := by
  cases near with
  | nil => exact ⟨layer + 1, far, [], by simp, h.advance, fun _ => rfl⟩
  | cons found near => exact ⟨layer, found :: near, far, rfl, h, by simp⟩

/-- **A look at the neighbours of the first frame in the queue keeps the queue in order.** -/
theorem Frontier.expand {u : String} {near far new : List (String × T)}
    {neighbours : List (String × T)} {seen' : List String}
    (h : Frontier hop start source layer seen ((u, reached) :: near) far)
    (hhops : ∀ v motion, neighbours.lookup v = some motion ↔ hop u v motion)
    (hnew : IsOnward source reached neighbours seen seen' new) :
    Frontier hop start source layer seen' near (far ++ new) := by
  have hreached := h.near_isReached _ List.mem_cons_self
  have hmem : ∀ v, v ∈ seen' ↔ v ∈ seen ∨ v ∈ new.map Prod.fst := by
    intro v
    rw [hnew.seen_eq, List.mem_append, List.mem_reverse, or_comm]
  -- What is new is one layer further out, since whatever is nearer was seen before.
  have hfresh : ∀ found ∈ new, IsReached hop start (layer + 1) found := by
    intro found hfound
    obtain ⟨hnot, step, hlookup, hmotion⟩ := hnew.of_mem found hfound
    have hfar := hreached.extend ((hhops found.1 step).1 hlookup) fun m => h.lt_of_not_mem hnot
    rwa [← hmotion] at hfar
  refine ⟨fun found hfound => h.near_isReached found (List.mem_cons_of_mem _ hfound),
    ?_, ?_, ?_, ?_, ?_, ?_⟩
  · intro found hfound
    rcases List.mem_append.1 hfound with hfound | hfound
    · exact h.far_isReached found hfound
    · exact hfresh found hfound
  · rw [hmem, not_or]
    exact ⟨h.source_not_mem, hnew.source_not_mem⟩
  · intro v n hn hle
    exact (hmem v).2 (.inl (h.mem_of_le v n hn hle))
  · intro v hv
    rcases h.mem_or_hop v hv with hseen | ⟨found, hfound, motion, hhop⟩
    · exact .inl ((hmem v).2 (.inl hseen))
    · rcases List.mem_cons.1 hfound with rfl | hfound
      · exact .inl (hnew.mem_of_lookup v motion ((hhops v motion).2 hhop))
      · exact .inr ⟨found, hfound, motion, hhop⟩
  · intro v hv hdist
    rw [List.map_append, List.mem_append]
    rcases (hmem v).1 hv with hseen | hmemNew
    · exact .inl (h.mem_far v hseen hdist)
    · exact .inr hmemNew
  · intro v hv n hn
    rcases (hmem v).1 hv with hseen | hmemNew
    · exact h.le_of_mem v hseen n hn
    · obtain ⟨found, hfound, rfl⟩ := List.mem_map.1 hmemNew
      rw [hn.unique (hfresh found hfound).isDistance]

/-- When the queue is empty no chain leads to the source. -/
theorem Frontier.isShortestAnswer_none (h : Frontier hop start source layer seen [] []) :
    IsShortestAnswer hop start source (none : Option T) := by
  refine ⟨⟨fun hsome => absurd hsome Bool.false_ne_true, ?_⟩, fun motion heq => by cases heq⟩
  rintro ⟨motions, hchain⟩
  exfalso
  obtain ⟨n, hn⟩ := IsDistance.exists_of_chain hchain
  -- Beyond the layer of the queue there would be a frame of the next layer, which is not queued.
  obtain ⟨v, hv⟩ := hn.exists_of_le (h.lt_of_not_mem h.source_not_mem hn)
  have hseen : v ∈ seen := by simpa using h.mem_or_hop v hv
  exact absurd (h.mem_far v hseen hv) List.not_mem_nil

/-! ## The search -/

/-- **The search finds a shortest chain, or that there is none, or it fails at a frame whose
neighbours cannot be listed.** -/
theorem search_cases {step : String → Except Crash (List (String × T))}
    (hstep : ∀ u neighbours, step u = .ok neighbours →
      ∀ v motion, neighbours.lookup v = some motion ↔ hop u v motion)
    (frames : List String) (hframes : ∀ u v motion, hop u v motion → v ∈ frames) (steps : Nat)
    {near far : List (String × T)} (h : Frontier hop start source layer seen near far)
    (hnodup : seen.Nodup) (hsub : seen ⊆ frames)
    (hcount : frames.length + (near ++ far).length ≤ steps + seen.length) :
    (∃ answer, search step source steps seen (near ++ far) = .ok answer ∧
      IsShortestAnswer hop start source answer) ∨
    ∃ u crash, step u = .error crash ∧
      search step source steps seen (near ++ far) = .error crash := by
  induction steps generalizing layer seen near far with
  | zero =>
    have hlength := (hnodup.subperm hsub).length_le
    obtain ⟨rfl, rfl⟩ : near = [] ∧ far = [] := by
      rw [← List.append_eq_nil_iff, ← List.length_eq_zero_iff]
      omega
    exact .inl ⟨none, rfl, h.isShortestAnswer_none⟩
  | succ steps ih =>
    obtain ⟨layer, near, far, hqueue, h, hempty⟩ := h.exists_near
    rw [hqueue] at hcount ⊢
    cases near with
    | nil =>
      obtain rfl := hempty rfl
      exact .inl ⟨none, rfl, h.isShortestAnswer_none⟩
    | cons found near =>
      obtain ⟨u, reached⟩ := found
      rw [List.cons_append, search]
      cases hneighbours : step u with
      | error crash => exact .inr ⟨u, crash, hneighbours, rfl⟩
      | ok neighbours =>
        have hhops := hstep u neighbours hneighbours
        dsimp only [bind, Except.bind]
        rcases expand_cases source reached neighbours seen [] h.source_not_mem with
          ⟨motion, hlookup, harrived⟩ | ⟨seen', new, honward, hnew⟩
        · rw [harrived]
          -- The source was not seen in an earlier layer, so this chain is a shortest one.
          have hfound := (h.near_isReached _ List.mem_cons_self).extend
            ((hhops source motion).1 hlookup) fun m => h.lt_of_not_mem h.source_not_mem
          exact .inl ⟨_, rfl, hfound.isShortestAnswer⟩
        · rw [honward]
          dsimp only
          rw [List.reverse_nil, List.nil_append, List.append_assoc]
          refine ih (h.expand hhops hnew) ?_ ?_ ?_
          · exact hnew.nodup_seen hnodup
          · intro v hv
            rw [hnew.seen_eq, List.mem_append, List.mem_reverse, List.mem_map] at hv
            rcases hv with ⟨found, hfound, rfl⟩ | hseen
            · obtain ⟨-, motion, hlookup, -⟩ := hnew.of_mem found hfound
              exact hframes u found.1 motion ((hhops found.1 motion).1 hlookup)
            · exact hsub hseen
          · rw [hnew.seen_eq]
            simp only [List.length_append, List.length_cons, List.length_reverse, List.length_map]
              at hcount ⊢
            omega

end frontier

end CollisionWatch.FrameTree
