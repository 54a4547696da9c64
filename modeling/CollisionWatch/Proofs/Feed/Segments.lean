import CollisionWatch.Proofs.Feed.Accounts

/-!
# No collision across a gap

A verdict of the sentinel of a feed is a collision if and only if the events that were published up
to the one just processed end in an unbroken segment with enough risky clouds (`EndsUnbroken`): no
event of the segment was lost, and no cloud of it was clear. It does not matter when the feed
noticed a loss, how often it lagged, or what else was published among the clouds.
-/

namespace CollisionWatch

open Double (IsNumber)

namespace Line

/-- The published events that the feed has come by end in a segment of which none was lost, without
a clear cloud, and with this many risky ones. -/
def EndsUnbroken (s : Sentinel) (n : Nat) (line : Line) : Prop :=
  ∃ before segment, line.published.take line.fates.length = before ++ segment ∧
    (∀ j : Nat, before.length ≤ j → line.fates[j]? ≠ some none) ∧
    (∀ event ∈ segment, s.eventMark event ≠ .clear) ∧
    n ≤ segment.countP fun event => s.eventMark event = .risky

variable {s : Sentinel} {output : Bus} {earlier : List Event} {line line' : Line}

/-- Where none was lost, the fates are the published events. -/
theorem Sound.drop_fates (h : Sound s output earlier line) {i : Nat}
    (hkept : ∀ j : Nat, i ≤ j → line.fates[j]? ≠ some none) :
    line.fates.drop i = ((line.published.take line.fates.length).drop i).map some := by
  apply List.ext_getElem?
  intro j
  rw [List.getElem?_drop, List.getElem?_map, List.getElem?_drop]
  rcases Nat.lt_or_ge (i + j) line.fates.length with hlt | hge
  · rw [List.getElem?_take_of_lt hlt]
    cases hfate : line.fates[i + j]? with
    | none => exact absurd (List.getElem?_eq_none_iff.1 hfate) (Nat.not_le.2 hlt)
    | some fate =>
      cases fate with
      | none => exact absurd hfate (hkept (i + j) (Nat.le_add_right i j))
      | some event => rw [h.aligned (i + j) event hfate, Option.map_some]
  · rw [List.getElem?_eq_none hge, List.getElem?_eq_none (by rw [List.length_take]; omega)]
    rfl

/-- Where none was lost, the marks are those of the published events. -/
theorem Sound.drop_marks (h : Sound s output earlier line) {i : Nat}
    (hkept : ∀ j : Nat, i ≤ j → line.fates[j]? ≠ some none) :
    (line.marks s).drop i =
      ((line.published.take line.fates.length).drop i).map s.eventMark := by
  rw [marks, ← List.map_drop, h.drop_fates hkept, List.map_map]
  rfl

/-- Risky marks are as many as the events that have them. -/
theorem count_map_eventMark (s : Sentinel) (events : List Event) :
    (events.map s.eventMark).count .risky =
      events.countP fun event => s.eventMark event = .risky := by
  rw [List.count_eq_countP, List.countP_map]
  refine List.countP_congr fun event _ => ?_
  simp

/-- An unbroken segment of events is a sustained streak of marks. -/
theorem Sound.endsUnbroken_iff (h : Sound s output earlier line) (n : Nat) :
    line.EndsUnbroken s n ↔ Sustained n (line.marks s) := by
  constructor
  · rintro ⟨before, segment, heq, hkept, hclear, hle⟩
    have hdrop := h.drop_marks hkept
    rw [heq, List.drop_left] at hdrop
    refine ⟨(line.marks s).take before.length, segment.map s.eventMark, ?_, ?_, ?_⟩
    · rw [← hdrop, List.take_append_drop]
    · intro mark hmark
      obtain ⟨event, hevent, rfl⟩ := List.mem_map.1 hmark
      exact ⟨hclear event hevent, s.eventMark_ne_gap event⟩
    · rw [count_map_eventMark]
      exact hle
  · rintro ⟨before, segment, heq, hall, hle⟩
    have hlength := congrArg List.length heq
    rw [length_marks, List.length_append] at hlength
    -- A lost event in the segment would have left a gap.
    have hkept : ∀ j : Nat, before.length ≤ j → line.fates[j]? ≠ some none := by
      intro j hj hnone
      have hgap : (line.marks s)[j]? = some .gap := by
        rw [marks, List.getElem?_map, hnone]
        rfl
      rw [heq, List.getElem?_append_right hj] at hgap
      exact (hall .gap (List.mem_of_getElem? hgap)).2 rfl
    have hdrop := h.drop_marks hkept
    rw [heq, List.drop_left] at hdrop
    refine ⟨(line.published.take line.fates.length).take before.length,
      (line.published.take line.fates.length).drop before.length,
      (List.take_append_drop _ _).symm, ?_, ?_, ?_⟩
    · have hbefore : ((line.published.take line.fates.length).take before.length).length =
          before.length := by
        rw [List.length_take, List.length_take]
        have hle := h.length_le
        omega
      rw [hbefore]
      exact hkept
    · intro event hevent
      have hmem : s.eventMark event ∈ segment := by
        rw [hdrop]
        exact List.mem_map_of_mem hevent
      exact (hall _ hmem).1
    · rw [← count_map_eventMark, ← hdrop]
      exact hle

/-- A step that takes a cloud, and what the sentinel makes of it. -/
theorem Sound.exists_step_of_cloud (h : Sound s output earlier line) (htree : s.tree.Built IsNumber)
    {stamp : Stamp} {event : Event} {cloud : Cloud}
    (hnext : line.feed.intakes line.bus line.shutdown stamp = [.event event stamp])
    (hcloud : event.payload = .cloud cloud) :
    ∃ outcome line', line.feed.sentinel.process cloud line.feed.output stamp = .ok outcome ∧
      line.act (.step stamp) = .ok line' ∧ Sound s output earlier line' ∧
      line'.feed.sentinel = outcome.sentinel ∧ line'.feed.output = outcome.bus ∧
      line'.published = line.published ∧ line'.fates = line.fates ++ [some event] := by
  obtain ⟨hlooking, listener, hreceive⟩ := Feed.exists_receive_eq hnext
  obtain ⟨outcome, hprocess, -, -⟩ := h.follows.exists_process htree cloud line.feed.output stamp
  have hact := act_step (Feed.step_of_cloud hlooking hreceive hcloud hprocess)
  refine ⟨outcome, _, hprocess, hact, ?_, rfl, rfl, rfl, ?_⟩
  · rcases h.step htree stamp with ⟨line', hact', hsound, -⟩ | ⟨-, crash, hcrash⟩
    · obtain rfl := Except.ok.inj (hact'.symm.trans hact)
      exact hsound
    · cases hcrash.symm.trans hact
  · unfold fates
    rw [hnext, List.flatMap_append, List.flatMap_singleton]
    rfl

/-- **A verdict of a feed is a collision exactly if the published events end, with the one that was
just processed, in an unbroken segment with enough risky clouds.** -/
theorem collision_iff_endsUnbroken {thresholds : Thresholds} {vehicle : String}
    {tree : FrameTree (Pose Float32)} {s : Sentinel}
    (hs : Sentinel.create thresholds vehicle tree = .ok s) (htree : tree.Built IsNumber)
    {bus output : Bus} {happenings : List Happening} {line : Line}
    (hrun : (start s bus output).run happenings = .ok line) {stamp : Stamp} {event : Event}
    {cloud : Cloud} (hnext : line.feed.intakes line.bus line.shutdown stamp = [.event event stamp])
    (hcloud : event.payload = .cloud cloud) :
    ∃ outcome line', line.feed.sentinel.process cloud line.feed.output stamp = .ok outcome ∧
      line.act (.step stamp) = .ok line' ∧
      line'.feed.sentinel = outcome.sentinel ∧ line'.feed.output = outcome.bus ∧
      line'.published = line.published ∧ line'.fates = line.fates ++ [some event] ∧
      (∀ (j : Nat) (arrived : Event),
        line'.fates[j]? = some (some arrived) → line'.published[j]? = some arrived) ∧
      ∀ verdict, outcome.result = .ok verdict →
        outcome.bus = (line.feed.output.publish .collisionWarning
          ⟨stamp, Sentinel.source, .verdict verdict⟩).2 ∧
        (verdict.collision = true ↔ line'.EndsUnbroken s thresholds.minFrames.toNat) := by
  have hnew := Sentinel.isNew_of_create hs
  have hbuilt := hnew.built htree
  have hsound := (Sound.start hnew bus output).of_run hbuilt hrun
  obtain ⟨outcome, line', hprocess, hact, hsound', hsentinel, houtput, hpublished, hfates⟩ :=
    hsound.exists_step_of_cloud hbuilt hnext hcloud
  have hmarks : line'.marks s = line.marks s ++ [s.markOf cloud] := by
    rw [marks, hfates, List.map_append, ← marks, List.map_singleton, Sentinel.fateMark,
      Sentinel.eventMark, hcloud]
  refine ⟨outcome, line', hprocess, hact, hsentinel, houtput, hpublished, hfates,
    hsound'.aligned, ?_⟩
  intro verdict hresult
  rw [hsound'.endsUnbroken_iff, hmarks, ← hnew.threshold]
  exact hsound.follows.verdict_iff hbuilt hprocess hresult

/-! ## Walls before and behind a gap -/

/-- A bus with room for two events. -/
def roomForTwo : Bus where
  clouds := { capacity := 2 }
  verdicts := { capacity := 2 }

/-- A wall is published and judged. Then four more are published, of which the first two are lost,
and the feed is told of that. -/
def glimpses : List Happening :=
  [.step ⟨1, ⟨0, 0⟩⟩, .publish wallEvent, .step ⟨2, ⟨0, 0⟩⟩, .publish wallEvent, .publish wallEvent,
    .publish wallEvent, .publish wallEvent, .step ⟨3, ⟨0, 0⟩⟩]

/-- With one wall behind the gap there is no unbroken segment of two. -/
theorem not_endsUnbroken_of_gap {s : Sentinel} {line : Line}
    (hfates : line.fates = [some wallEvent, none, none, some wallEvent]) :
    ¬ line.EndsUnbroken s 2 := by
  rintro ⟨before, segment, heq, hkept, -, hle⟩
  rw [hfates] at hkept heq
  -- No segment without a loss begins before the last of the lost walls.
  have hbefore : 2 < before.length := by
    by_contra hshort
    exact hkept 2 (Nat.not_lt.1 hshort) rfl
  have hlength := congrArg List.length heq
  rw [List.length_take, List.length_append] at hlength
  have hcount : segment.countP (fun event => s.eventMark event = .risky) ≤ segment.length :=
    List.countP_le_length
  have hfour : [some wallEvent, none, none, some wallEvent].length = 4 := rfl
  omega

/-- With two walls behind the gap there is one. -/
theorem endsUnbroken_of_gap {s : Sentinel} {line : Line} (hwall : s.eventMark wallEvent = .risky)
    (hfates : line.fates = [some wallEvent, none, none, some wallEvent, some wallEvent])
    (hpublished : line.published = List.replicate 5 wallEvent) : line.EndsUnbroken s 2 := by
  refine ⟨List.replicate 3 wallEvent, List.replicate 2 wallEvent, ?_, ?_, ?_, ?_⟩
  · rw [hfates, hpublished]
    rfl
  · intro j hj hnone
    rw [hfates] at hnone
    match j, hj with
    | 3, _ | 4, _ => cases hnone
    | _ + 5, _ => cases hnone
  · intro event hevent hclear
    obtain rfl := List.eq_of_mem_replicate hevent
    cases hwall.symm.trans hclear
  · rw [List.countP_replicate, if_pos (decide_eq_true hwall)]

/-- Two walls in a row are a collision for this sentinel, but not across a gap: the first wall
behind the gap is none, although one was judged in front of it, and the second one is. -/
theorem walls_beside_gap :
    Sentinel.create { minFrames := 2 } "body" Sentinel.mounted = .ok (Sentinel.lookout 2) ∧
      Sentinel.mounted.Built IsNumber ∧
      ∃ (line line' : Line) (outcome outcome' : Sentinel.Outcome) (verdict verdict' : Verdict),
        (start (Sentinel.lookout 2) roomForTwo .usual).run glimpses = .ok line ∧
        line.feed.intakes line.bus line.shutdown ⟨4, ⟨0, 0⟩⟩ = [.event wallEvent ⟨4, ⟨0, 0⟩⟩] ∧
        line.feed.sentinel.process Sentinel.wall line.feed.output ⟨4, ⟨0, 0⟩⟩ = .ok outcome ∧
        outcome.result = .ok verdict ∧ verdict.collision = false ∧
        line.act (.step ⟨4, ⟨0, 0⟩⟩) = .ok line' ∧
        line'.fates = [some wallEvent, none, none, some wallEvent] ∧
        line'.feed.intakes line'.bus line'.shutdown ⟨5, ⟨0, 0⟩⟩ =
          [.event wallEvent ⟨5, ⟨0, 0⟩⟩] ∧
        line'.feed.sentinel.process Sentinel.wall line'.feed.output ⟨5, ⟨0, 0⟩⟩ = .ok outcome' ∧
        outcome'.result = .ok verdict' ∧ verdict'.collision = true := by
  have hcreate : Sentinel.create { minFrames := 2 } "body" Sentinel.mounted =
      .ok (Sentinel.lookout 2) := rfl
  have hwall : (Sentinel.lookout 2).eventMark wallEvent = .risky := by decide +kernel
  obtain ⟨line, outcome, verdict, hrun, hnext, hprocess, hresult, hfates⟩ :
      ∃ (line : Line) (outcome : Sentinel.Outcome) (verdict : Verdict),
        (start (Sentinel.lookout 2) roomForTwo .usual).run glimpses = .ok line ∧
        line.feed.intakes line.bus line.shutdown ⟨4, ⟨0, 0⟩⟩ = [.event wallEvent ⟨4, ⟨0, 0⟩⟩] ∧
        line.feed.sentinel.process Sentinel.wall line.feed.output ⟨4, ⟨0, 0⟩⟩ = .ok outcome ∧
        outcome.result = .ok verdict ∧ line.fates = [some wallEvent, none, none] :=
    ⟨_, _, _, rfl, rfl, rfl, rfl, rfl⟩
  obtain ⟨line', outcome', verdict', hrun', hnext', hprocess', hresult', hpublished'⟩ :
      ∃ (line' : Line) (outcome' : Sentinel.Outcome) (verdict' : Verdict),
        (start (Sentinel.lookout 2) roomForTwo .usual).run (glimpses ++ [.step ⟨4, ⟨0, 0⟩⟩]) =
          .ok line' ∧
        line'.feed.intakes line'.bus line'.shutdown ⟨5, ⟨0, 0⟩⟩ =
          [.event wallEvent ⟨5, ⟨0, 0⟩⟩] ∧
        line'.feed.sentinel.process Sentinel.wall line'.feed.output ⟨5, ⟨0, 0⟩⟩ = .ok outcome' ∧
        outcome'.result = .ok verdict' ∧ line'.published = List.replicate 5 wallEvent :=
    ⟨_, _, _, rfl, rfl, rfl, rfl, rfl⟩
  -- The first wall behind the gap.
  obtain ⟨judged, next, hjudged, hact, -, -, -, hfates', -, hverdict⟩ :=
    collision_iff_endsUnbroken hcreate Sentinel.built_mounted hrun hnext rfl
  obtain rfl := Except.ok.inj (hjudged.symm.trans hprocess)
  obtain rfl := Except.ok.inj
    (((foldlM_append_singleton hrun (.step ⟨4, ⟨0, 0⟩⟩)).trans hact).symm.trans hrun')
  rw [hfates] at hfates'
  have hnone : verdict.collision = false := Bool.eq_false_iff.2 fun hcollision =>
    not_endsUnbroken_of_gap hfates' ((hverdict verdict hresult).2.1 hcollision)
  -- The second one.
  obtain ⟨judged', last, hjudged', -, -, -, hpublished, hlast, -, hverdict'⟩ :=
    collision_iff_endsUnbroken hcreate Sentinel.built_mounted hrun' hnext' rfl
  obtain rfl := Except.ok.inj (hjudged'.symm.trans hprocess')
  rw [hfates'] at hlast
  have hsome : verdict'.collision = true := (hverdict' verdict' hresult').2.2
    (endsUnbroken_of_gap hwall hlast (hpublished.trans hpublished'))
  exact ⟨hcreate, Sentinel.built_mounted, _, _, _, _, verdict, verdict', hrun, hnext, hprocess,
    hresult, hnone, hact, hfates', hnext', hprocess', hresult', hsome⟩

end Line

end CollisionWatch
