import CollisionWatch.Proofs.Feed.Ledger

/-!
# The accounts of a feed

A feed never crashes while fewer events are published than a word can count, and its accounts are
right at every moment (`Line.Accounted`): every event that was published since the feed
listens is judged, given up, ignored, lost or pending, and it is one of these only. The feed takes
the events in the order of their publication, and what comes of it is what comes of a plain run of
the sentinel. A feed that ends because its topic is closed leaves nothing behind.
-/

namespace CollisionWatch

open Double (IsNumber)

/-- A mark is of one kind only. -/
theorem count_marks (marks : List Mark) :
    marks.countP Mark.isDecided + marks.count .unplaced + marks.count .stray + marks.count .gap =
      marks.length := by
  induction marks with
  | nil => rfl
  | cons mark marks ih =>
    cases mark <;> simp [Mark.isDecided] <;> omega

namespace Line

/-- The accounts of a line that began with this sentinel and this bus of verdicts. -/
structure Accounted (s : Sentinel) (output : Bus) (line : Line) : Prop where
  /-- The feed has come by the first of the published events, in their order; each of them has
  arrived as it was published, or is lost. -/
  arrived : ∀ (j : Nat) (event : Event),
    line.fates[j]? = some (some event) → line.published[j]? = some event
  /-- The other ones are pending. -/
  pending : line.fates.length + line.pending = line.published.length
  /-- The sentinel has counted the clouds that got a verdict. -/
  evaluated : line.feed.sentinel.stats.evaluated.toNat = (line.marks s).countP Mark.isDecided
  /-- It has counted the clouds that it gave up. -/
  unresolved : line.feed.sentinel.stats.unresolved.toNat = (line.marks s).count .unplaced
  /-- It has counted the lost events. -/
  lost : line.feed.sentinel.stats.lost.toNat = line.fates.countP Option.isNone
  /-- The classes make up all that was published. -/
  total : line.feed.sentinel.stats.evaluated.toNat + line.feed.sentinel.stats.unresolved.toNat +
    line.ignored s + line.feed.sentinel.stats.lost.toNat + line.pending = line.published.length
  /-- The sentinel and the bus of its verdicts are where the plain run leaves them. -/
  sequential : s.follow output line.log = .ok (line.feed.sentinel, line.feed.output)
  /-- A feed whose topic is closed leaves nothing behind. -/
  drained : .feedClosed ∈ line.notices → line.pending = 0

variable {s : Sentinel} {output : Bus} {earlier : List Event} {line line' : Line}

/-- An event is lost if and only if its mark is a gap. -/
theorem count_gap_marks (s : Sentinel) (line : Line) :
    (line.marks s).count .gap = line.fates.countP Option.isNone := by
  rw [marks, List.count_eq_countP, List.countP_map]
  refine List.countP_congr fun fate _ => ?_
  cases fate with
  | none => simp [Sentinel.fateMark]
  | some event => simpa [Sentinel.fateMark] using s.eventMark_ne_gap event

/-- Right books make right accounts. -/
theorem Sound.accounted (h : Sound s output earlier line)
    (hfew : line.published.length < UInt64.size) : line.Accounted s output := by
  have hposition := h.position
  have hsize := h.size_sent
  have hlength := h.length_le
  have htallies := h.tallies hfew
  have hpending : line.fates.length + line.pending = line.published.length := by
    unfold pending
    omega
  refine ⟨h.aligned, hpending, htallies.evaluated, htallies.unresolved, ?_, ?_, h.sequential, ?_⟩
  · rw [htallies.lost, count_gap_marks]
  · have hcount := count_marks (line.marks s)
    rw [Sound.length_marks] at hcount
    rw [htallies.evaluated, htallies.unresolved, htallies.lost, ignored]
    omega
  · intro hmem
    have hall := (h.drained hmem).2
    omega

/-! ## Runs -/

/-- A feed that begins to listen has right books. -/
theorem Sound.start {thresholds : Thresholds} {tree : FrameTree (Pose Float32)}
    (h : Sentinel.IsNew thresholds tree s) (bus output : Bus) :
    Sound s output bus.clouds.sent.toList (start s bus output) where
  topic := rfl
  listeners := Nat.succ_pos _
  sent := (List.append_nil _).symm
  position := Array.length_toList.symm
  length_le := Nat.le_refl _
  aligned := fun _ _ hj => nomatch hj
  follows := Sentinel.Follows.refl s h.count
  tallies := fun _ => Sentinel.Tallies.refl h.stats
  sequential := rfl
  drained := fun hmem => absurd hmem List.not_mem_nil

/-- **Every run keeps the books right.** -/
theorem Sound.of_run (h : Sound s output earlier line) (htree : s.tree.Built IsNumber)
    {happenings : List Happening} (hrun : line.run happenings = .ok line') :
    Sound s output earlier line' := by
  induction happenings using List.reverseRecOn generalizing line' with
  | nil =>
    obtain rfl := Except.ok.inj hrun
    exact h
  | append_singleton happenings happening ih =>
    obtain ⟨line₁, hrun₁, hact⟩ := exists_of_foldlM_append_singleton hrun
    -- A happening that crashed would have ended the run.
    rcases (ih hrun₁).act htree happening with ⟨line₂, hact₂, hsound, -⟩ | ⟨-, crash, hcrash⟩
    · obtain rfl := Except.ok.inj (hact₂.symm.trans hact)
      exact hsound
    · cases hcrash.symm.trans hact

/-- **Every run is possible**, unless more events are published than a word can count. -/
theorem Sound.exists_run (h : Sound s output earlier line) (htree : s.tree.Built IsNumber)
    (happenings : List Happening)
    (hfew : line.published.length + happenings.countP Happening.isPublish < UInt64.size) :
    ∃ line', line.run happenings = .ok line' ∧ line'.published.length ≤
      line.published.length + happenings.countP Happening.isPublish := by
  induction happenings using List.reverseRecOn with
  | nil => exact ⟨line, rfl, Nat.le_refl _⟩
  | append_singleton happenings happening ih =>
    rw [List.countP_append, List.countP_singleton] at hfew ⊢
    obtain ⟨line₁, hrun, hlength⟩ := ih (by omega)
    rcases (h.of_run htree hrun).act htree happening with ⟨line₂, hact, -, hle⟩ | ⟨hmany, -⟩
    · exact ⟨line₂, (foldlM_append_singleton hrun happening).trans hact, by omega⟩
    · omega

/-- **The accounts of a feed are right at every moment**: whatever was published, on a bus of
whatever capacity, and in whatever order things happened. -/
theorem exists_run_accounted {thresholds : Thresholds} {vehicle : String}
    {tree : FrameTree (Pose Float32)} {s : Sentinel}
    (hs : Sentinel.create thresholds vehicle tree = .ok s) (htree : tree.Built IsNumber)
    (bus output : Bus) (happenings : List Happening)
    (hfew : happenings.countP Happening.isPublish < UInt64.size) :
    ∃ line, (start s bus output).run happenings = .ok line ∧
      line.bus.clouds.sent.toList = bus.clouds.sent.toList ++ line.published ∧
      line.Accounted s output := by
  have hnew := Sentinel.isNew_of_create hs
  have hbuilt := hnew.built htree
  have hstart := Sound.start hnew bus output
  have hnone : (start s bus output).published.length = 0 := rfl
  obtain ⟨line, hrun, hlength⟩ := hstart.exists_run hbuilt happenings (by omega)
  have hsound := hstart.of_run hbuilt hrun
  exact ⟨line, hrun, hsound.sent, hsound.accounted (by omega)⟩

/-- A wall among the clouds. -/
def wallEvent : Event := ⟨⟨0, ⟨0, 0⟩⟩, "lidar", .cloud Sentinel.wall⟩

/-- A bus with room for one event. -/
def narrow : Bus where
  clouds := { capacity := 1 }
  verdicts := { capacity := 1 }

/-- Two walls are published on a narrow bus, so the first one is lost; then the topic is closed. -/
def lossy : List Happening :=
  [.step ⟨1, ⟨0, 0⟩⟩, .publish wallEvent, .publish wallEvent, .step ⟨2, ⟨0, 0⟩⟩,
    .step ⟨3, ⟨0, 0⟩⟩, .drop, .step ⟨4, ⟨0, 0⟩⟩]

/-- The accounts are right for a feed that lost an event and whose topic is closed then. -/
theorem accounted_lossy :
    Sentinel.create {} "body" Sentinel.mounted = .ok (Sentinel.lookout 3) ∧
      lossy.countP Happening.isPublish < UInt64.size ∧
      ∃ line, (start (Sentinel.lookout 3) narrow .usual).run lossy = .ok line ∧
        line.Accounted (Sentinel.lookout 3) .usual := by
  obtain ⟨line, hrun, -, haccounted⟩ := exists_run_accounted Sentinel.create_lookout
    Sentinel.built_mounted narrow .usual lossy (by decide)
  exact ⟨Sentinel.create_lookout, by decide, line, hrun, haccounted⟩

end Line

end CollisionWatch
