import CollisionWatch.Proofs.Feed.Line

/-!
# Nothing is lost or counted twice without notice

Whatever happens to a line, in whatever order, its books are right (`Line.Sound.act`). The feed has
come by the first of the published events, one after the other, and has settled the fate of each of
them once; the totals of the sentinel add up to them (`Line.Accounted`). And the sentinel and the
bus of its verdicts are where the plain run would have brought them.
-/

namespace CollisionWatch

open Double (IsNumber)

namespace Line

/-- The books of a line that began with this sentinel and this bus of verdicts, after the bus of the
clouds had carried some earlier events. -/
structure Sound (s : Sentinel) (output : Bus) (earlier : List Event) (line : Line) : Prop where
  /-- The feed listens to clouds. -/
  topic : line.feed.listener.topic = .pointCloud
  /-- So the clouds have a listener. -/
  listeners : 0 < line.bus.clouds.listeners
  /-- The channel has carried the earlier events and the published ones. -/
  sent : line.bus.clouds.sent.toList = earlier ++ line.published
  /-- The feed stands behind the events whose fates are settled. -/
  position : line.feed.listener.position = earlier.length + line.fates.length
  /-- It has come by no more than was published. -/
  length_le : line.fates.length ≤ line.published.length
  /-- An event that arrived is the one that was published in its place. -/
  aligned : ∀ (j : Nat) (event : Event),
    line.fates[j]? = some (some event) → line.published[j]? = some event
  /-- The sentinel is where the marks lead it. -/
  follows : s.Follows (line.marks s) line.feed.sentinel
  /-- Its totals count the marks, as long as a word holds them. -/
  tallies : line.published.length < UInt64.size →
    Sentinel.Tallies (line.marks s) line.feed.sentinel
  /-- The plain run has come to the same sentinel and the same bus of verdicts. -/
  sequential : s.follow output line.log = .ok (line.feed.sentinel, line.feed.output)
  /-- A feed that knows of the end has come by everything. -/
  drained : .feedClosed ∈ line.notices →
    line.bus.clouds.isOpen = false ∧ line.fates.length = line.published.length

namespace Sound

variable {s : Sentinel} {output : Bus} {earlier : List Event} {line : Line}

/-- The channel has carried the earlier events and the published ones. -/
theorem size_sent (h : Sound s output earlier line) :
    line.bus.clouds.sent.size = earlier.length + line.published.length := by
  rw [← Array.length_toList, h.sent, List.length_append]

/-- Every fate has its mark. -/
theorem length_marks (s : Sentinel) (line : Line) :
    (line.marks s).length = line.fates.length := List.length_map _

/-- An event that is there for the feed is the next of the published ones. -/
theorem published_eq (h : Sound s output earlier line)
    (hlt : line.feed.listener.position < line.bus.clouds.sent.size) :
    line.published[line.fates.length]? =
      some line.bus.clouds.sent[line.feed.listener.position] := by
  rw [← Array.getElem?_eq_getElem hlt, ← Array.getElem?_toList, h.sent, h.position,
    List.getElem?_append_right (Nat.le_add_right _ _), Nat.add_sub_cancel_left]

/-- Something was brought to the sentinel, and the feed has gone past what it settled. -/
theorem advance (h : Sound s output earlier line) {feed : Feed} {notices : List Notice}
    {intake : Intake}
    (hlistener : feed.listener = { line.feed.listener with
      position := line.feed.listener.position + intake.fates.length })
    (hlength : line.fates.length + intake.fates.length ≤ line.published.length)
    (haligned : ∀ (j : Nat) (event : Event), intake.fates[j]? = some (some event) →
      line.published[line.fates.length + j]? = some event)
    (hfollows : s.Follows (line.marks s ++ intake.fates.map s.fateMark) feed.sentinel)
    (htallies : line.published.length < UInt64.size →
      Sentinel.Tallies (line.marks s ++ intake.fates.map s.fateMark) feed.sentinel)
    (hpass : intake.pass line.feed.sentinel line.feed.output = .ok (feed.sentinel, feed.output))
    (hnotices : .feedClosed ∉ notices) :
    Sound s output earlier { line with
      feed
      log := line.log ++ [intake]
      notices := line.notices ++ notices } := by
  have hfates : fates { line with
      feed
      log := line.log ++ [intake]
      notices := line.notices ++ notices } = line.fates ++ intake.fates := by
    unfold fates
    rw [List.flatMap_append, List.flatMap_singleton]
  have hmarks : marks s { line with
      feed
      log := line.log ++ [intake]
      notices := line.notices ++ notices } = line.marks s ++ intake.fates.map s.fateMark := by
    rw [marks, hfates, List.map_append, ← marks]
  refine ⟨?_, h.listeners, h.sent, ?_, ?_, ?_, ?_, ?_, ?_, ?_⟩
  · rw [hlistener]
    exact h.topic
  · rw [hfates, List.length_append, hlistener, ← Nat.add_assoc, ← h.position]
  · rw [hfates, List.length_append]
    exact hlength
  · intro j event hj
    rw [hfates] at hj
    rcases Nat.lt_or_ge j line.fates.length with hlt | hge
    · rw [List.getElem?_append_left hlt] at hj
      exact h.aligned j event hj
    · rw [List.getElem?_append_right hge] at hj
      have hnew := haligned _ event hj
      rwa [Nat.add_sub_cancel' hge] at hnew
  · rw [hmarks]
    exact hfollows
  · rw [hmarks]
    exact htallies
  · exact (foldlM_append_singleton h.sequential intake).trans hpass
  · intro hmem
    rcases List.mem_append.1 hmem with hmem | hmem
    -- A feed that knows of the end has come by everything, so this intake settled nothing.
    · obtain ⟨hclosed, hall⟩ := h.drained hmem
      refine ⟨hclosed, ?_⟩
      rw [hfates, List.length_append]
      change line.fates.length + intake.fates.length = line.published.length
      omega
    · exact absurd hmem hnotices

/-- The next of the published events was brought to the sentinel. -/
theorem advance_event (h : Sound s output earlier line) {feed : Feed} {notices : List Notice}
    {event : Event} (hevent : line.published[line.fates.length]? = some event) (stamp : Stamp)
    (hlistener : feed.listener = { line.feed.listener with
      position := line.feed.listener.position + 1 })
    (hfollows : s.Follows (line.marks s ++ [s.eventMark event]) feed.sentinel)
    (htallies : line.published.length < UInt64.size →
      Sentinel.Tallies (line.marks s ++ [s.eventMark event]) feed.sentinel)
    (hpass : Intake.pass line.feed.sentinel line.feed.output (.event event stamp) =
      .ok (feed.sentinel, feed.output))
    (hnotices : .feedClosed ∉ notices) :
    Sound s output earlier { line with
      feed
      log := line.log ++ [.event event stamp]
      notices := line.notices ++ notices } := by
  refine h.advance hlistener ?_ ?_ hfollows htallies hpass hnotices
  · exact (List.getElem?_eq_some_iff.1 hevent).1
  · intro j arrived hj
    cases j with
    | zero =>
      obtain rfl : event = arrived := by simpa [Intake.fates] using hj
      exact hevent
    | succ j => simp [Intake.fates] at hj

/-- Nothing was brought to the sentinel. -/
theorem idle (h : Sound s output earlier line) {feed : Feed} {notices : List Notice}
    (hsentinel : feed.sentinel = line.feed.sentinel)
    (hlistener : feed.listener = line.feed.listener) (houtput : feed.output = line.feed.output)
    (hnotices : .feedClosed ∈ notices →
      line.bus.clouds.isOpen = false ∧ line.fates.length = line.published.length) :
    Sound s output earlier { line with feed, notices := line.notices ++ notices } := by
  refine ⟨?_, h.listeners, h.sent, ?_, h.length_le, h.aligned, ?_, ?_, ?_, ?_⟩
  · rw [hlistener]
    exact h.topic
  · rw [hlistener]
    exact h.position
  · rw [hsentinel]
    exact h.follows
  · rw [hsentinel]
    exact h.tallies
  · rw [hsentinel, houtput]
    exact h.sequential
  · intro hmem
    rcases List.mem_append.1 hmem with hmem | hmem
    · exact h.drained hmem
    · exact hnotices hmem

/-! ## A step of the feed -/

/-- What the feed receives is what its channel holds for it. -/
theorem receive_listener (h : Sound s output earlier line) :
    line.feed.listener.receive line.bus =
      ((line.bus.clouds.receive line.feed.listener.position).1,
        { line.feed.listener with
          position := (line.bus.clouds.receive line.feed.listener.position).2 }) := by
  have hchannel : line.bus.channel line.feed.listener.topic = line.bus.clouds := by
    rw [h.topic]
    rfl
  unfold Listener.receive
  rw [hchannel]

/-- A step whose outcome is known. -/
theorem act_step {feed : Feed} {notices : List Notice} {stamp : Stamp}
    (hstep : line.feed.step line.bus line.shutdown stamp = .ok (feed, notices)) :
    line.act (.step stamp) = .ok { line with
      feed
      log := line.log ++ line.feed.intakes line.bus line.shutdown stamp
      notices := line.notices ++ notices } := by
  rw [act, hstep]
  rfl

/-- The feed is told how many events it has lost, unless there are too many to be counted. -/
theorem step_of_lagging (h : Sound s output earlier line)
    (hlooking : line.feed.isLooking line.shutdown = true)
    (hlag : line.feed.listener.position < line.bus.clouds.oldest) (stamp : Stamp) :
    (∃ line', line.act (.step stamp) = .ok line' ∧ Sound s output earlier line' ∧
      line'.published = line.published) ∨
    UInt64.size ≤ line.published.length ∧ ∃ crash, line.act (.step stamp) = .error crash := by
  obtain ⟨hstep, hintakes⟩ := Feed.step_of_looking hlooking line.bus stamp
  have hreceive := h.receive_listener
  rw [Channel.receive_of_lagging _ hlag] at hreceive
  have hposition := h.position
  have hsize := h.size_sent
  have holdest : line.bus.clouds.oldest ≤ line.bus.clouds.sent.size := Nat.sub_le _ _
  -- The position after the lag is the oldest event, so the gap is what lies between.
  obtain ⟨lost, hlost⟩ : ∃ lost, lost = line.bus.clouds.oldest - line.feed.listener.position :=
    ⟨_, rfl⟩
  rw [← hlost] at hreceive
  have hpos : 0 < lost := by omega
  have hlength : line.fates.length + lost ≤ line.published.length := by omega
  have htotal : line.published.length < UInt64.size →
      (line.marks s).length + lost < UInt64.size := by
    rw [length_marks]
    omega
  cases hdiscard : line.feed.sentinel.discardStreak lost.toUInt64 with
  | error crash =>
    refine .inr ⟨?_, crash, ?_⟩
    -- The total of lost events is at most the number of published ones.
    · by_contra hfew
      obtain ⟨s', notices, hok⟩ :=
        (h.tallies (Nat.not_le.1 hfew)).exists_discard (htotal (Nat.not_le.1 hfew))
      cases hok.symm.trans hdiscard
    · rw [Line.act, hstep, Feed.receive, hreceive]
      dsimp only
      rw [hdiscard]
      rfl
  | ok answer =>
    obtain ⟨s', notices⟩ := answer
    have hfeed : line.feed.step line.bus line.shutdown stamp =
        .ok ({ line.feed with
          sentinel := s'
          listener := { line.feed.listener with position := line.bus.clouds.oldest }
          phase := .ready }, .feedLagged :: notices) := by
      rw [hstep, Feed.receive, hreceive]
      dsimp only
      rw [hdiscard]
      rfl
    refine .inl ⟨_, act_step hfeed, ?_, rfl⟩
    rw [hintakes, hreceive]
    have hnone : (List.replicate lost (none : Option Event)).map s.fateMark =
        List.replicate lost .gap := List.map_replicate
    refine h.advance ?_ ?_ ?_ ?_ ?_ ?_ ?_
    · dsimp only [Intake.fates]
      rw [List.length_replicate]
      congr 1
      omega
    · rw [Intake.fates, List.length_replicate]
      exact hlength
    · intro j event hj
      have hmem := List.mem_of_getElem? hj
      cases List.eq_of_mem_replicate hmem
    · rw [Intake.fates, hnone]
      exact h.follows.discard hpos hdiscard
    · rw [Intake.fates, hnone]
      exact fun hfew => (h.tallies hfew).discard (htotal hfew) hdiscard
    · rw [Intake.pass, hdiscard]
      rfl
    · rw [List.mem_cons, not_or]
      exact ⟨by decide, Sentinel.feedClosed_not_mem_discardStreak hdiscard⟩

/-- The feed gets the next of the published events. -/
theorem step_of_kept (h : Sound s output earlier line) (htree : s.tree.Built IsNumber)
    (hlooking : line.feed.isLooking line.shutdown = true)
    (hkept : line.bus.clouds.oldest ≤ line.feed.listener.position)
    (hlt : line.feed.listener.position < line.bus.clouds.sent.size) (stamp : Stamp) :
    ∃ line', line.act (.step stamp) = .ok line' ∧ Sound s output earlier line' ∧
      line'.published = line.published := by
  obtain ⟨hstep, hintakes⟩ := Feed.step_of_looking hlooking line.bus stamp
  have hreceive := h.receive_listener
  rw [Channel.receive_of_kept _ hkept hlt] at hreceive
  have hnext := h.published_eq hlt
  have hposition := h.position
  have hsize := h.size_sent
  have htotal : line.published.length < UInt64.size →
      (line.marks s).length + 1 < UInt64.size := by
    rw [length_marks]
    omega
  obtain ⟨event, hevent⟩ : ∃ event, event = line.bus.clouds.sent[line.feed.listener.position] :=
    ⟨_, rfl⟩
  rw [← hevent] at hreceive hnext
  cases hpayload : event.payload with
  | cloud cloud =>
    obtain ⟨outcome, hprocess, hfollows, htallies⟩ :=
      h.follows.exists_process htree cloud line.feed.output stamp
    have hmark : s.eventMark event = s.markOf cloud := by rw [Sentinel.eventMark, hpayload]
    have hfeed := Feed.step_of_cloud hlooking hreceive hpayload hprocess
    refine ⟨_, act_step hfeed, ?_, rfl⟩
    rw [hintakes, hreceive]
    rw [← hmark] at hfollows htallies
    refine h.advance_event hnext stamp rfl hfollows
      (fun hfew => htallies (h.tallies hfew) (htotal hfew)) ?_
      (Sentinel.feedClosed_not_mem_process hprocess)
    rw [Intake.pass, hpayload]
    dsimp only
    rw [hprocess]
    rfl
  | verdict verdict =>
    have hmark : s.eventMark event = .stray := by rw [Sentinel.eventMark, hpayload]
    have hfeed : line.feed.step line.bus line.shutdown stamp =
        .ok (⟨line.feed.sentinel, { line.feed.listener with
          position := line.feed.listener.position + 1 }, line.feed.output, .ready⟩, []) := by
      rw [hstep, Feed.receive, hreceive]
      dsimp only
      rw [Feed.accept, hpayload]
    refine ⟨_, act_step hfeed, ?_, rfl⟩
    rw [hintakes, hreceive]
    refine h.advance_event hnext stamp rfl ?_ ?_ ?_ List.not_mem_nil
    · rw [hmark]
      exact h.follows.idle (.inr rfl)
    · rw [hmark]
      exact fun hfew => (h.tallies hfew).stray
    · rw [Intake.pass, hpayload]

/-- A step that brings nothing. -/
theorem step_of_idle (h : Sound s output earlier line) {feed : Feed} {notices : List Notice}
    {stamp : Stamp} (hstep : line.feed.step line.bus line.shutdown stamp = .ok (feed, notices))
    (hnone : line.feed.intakes line.bus line.shutdown stamp = [])
    (hsentinel : feed.sentinel = line.feed.sentinel)
    (hlistener : feed.listener = line.feed.listener) (houtput : feed.output = line.feed.output)
    (hnotices : .feedClosed ∈ notices →
      line.bus.clouds.isOpen = false ∧ line.fates.length = line.published.length) :
    ∃ line', line.act (.step stamp) = .ok line' ∧ Sound s output earlier line' ∧
      line'.published = line.published := by
  refine ⟨_, act_step hstep, ?_, rfl⟩
  rw [hnone, List.append_nil]
  exact h.idle hsentinel hlistener houtput hnotices

/-- The feed waits for an event, or learns that there will be none. -/
theorem step_of_drained (h : Sound s output earlier line)
    (hlooking : line.feed.isLooking line.shutdown = true)
    (hge : line.bus.clouds.sent.size ≤ line.feed.listener.position) (stamp : Stamp) :
    ∃ line', line.act (.step stamp) = .ok line' ∧ Sound s output earlier line' ∧
      line'.published = line.published := by
  obtain ⟨hstep, hintakes⟩ := Feed.step_of_looking hlooking line.bus stamp
  have hreceive := h.receive_listener
  have holdest : line.bus.clouds.oldest ≤ line.feed.listener.position :=
    (Nat.sub_le _ _).trans hge
  rw [Channel.receive_of_drained _ holdest hge] at hreceive
  cases hopen : line.bus.clouds.isOpen with
  | true =>
    rw [hopen, if_pos rfl] at hreceive
    have hfeed : line.feed.step line.bus line.shutdown stamp =
        .ok ({ line.feed with phase := .waiting }, []) := by
      rw [hstep, Feed.receive, hreceive]
    refine h.step_of_idle hfeed ?_ rfl rfl rfl (fun hmem => absurd hmem List.not_mem_nil)
    rw [hintakes, hreceive]
    rfl
  | false =>
    rw [hopen, if_neg Bool.false_ne_true] at hreceive
    have hfeed : line.feed.step line.bus line.shutdown stamp =
        .ok ({ line.feed with phase := .stopped }, [.feedClosed, .feedStopped]) := by
      rw [hstep, Feed.receive, hreceive]
      rfl
    refine h.step_of_idle hfeed ?_ rfl rfl rfl fun _ => ⟨hopen, ?_⟩
    · rw [hintakes, hreceive]
      rfl
    · have hposition := h.position
      have hsize := h.size_sent
      have hlength := h.length_le
      omega

/-- **A step of the feed keeps the books right.** -/
theorem step (h : Sound s output earlier line) (htree : s.tree.Built IsNumber) (stamp : Stamp) :
    (∃ line', line.act (.step stamp) = .ok line' ∧ Sound s output earlier line' ∧
      line'.published = line.published) ∨
    UInt64.size ≤ line.published.length ∧ ∃ crash, line.act (.step stamp) = .error crash := by
  cases hlooking : line.feed.isLooking line.shutdown with
  | false =>
    obtain ⟨phase, notices, hstep, hnotices, hnone⟩ :=
      Feed.exists_step_of_not_looking hlooking line.bus stamp
    exact .inl (h.step_of_idle hstep hnone rfl rfl rfl fun hmem => absurd hmem hnotices)
  | true =>
    by_cases hlag : line.feed.listener.position < line.bus.clouds.oldest
    · exact h.step_of_lagging hlooking hlag stamp
    · by_cases hlt : line.feed.listener.position < line.bus.clouds.sent.size
      · exact .inl (h.step_of_kept htree hlooking (Nat.not_lt.1 hlag) hlt stamp)
      · exact .inl (h.step_of_drained hlooking (Nat.not_lt.1 hlt) stamp)

/-! ## Everything else -/

/-- An event is published, and waits for the feed. -/
theorem publish (h : Sound s output earlier line) (event : Event) :
    ∃ line', line.act (.publish event) = .ok line' ∧ Sound s output earlier line' ∧
      line'.published.length ≤ line.published.length + 1 := by
  cases hopen : line.bus.clouds.isOpen with
  | false => exact ⟨line, by rw [Line.act, hopen]; rfl, h, Nat.le_succ _⟩
  | true =>
    have hact : line.act (.publish event) = .ok { line with
        bus := line.bus.modifyChannel .pointCloud (·.send event)
        published := line.published ++ [event] } := by
      rw [Line.act, if_pos hopen, line.bus.publish_eq .pointCloud h.listeners]
    refine ⟨_, hact, ⟨h.topic, h.listeners, ?_, h.position, ?_, ?_, h.follows, ?_,
      h.sequential, ?_⟩, ?_⟩
    · change (line.bus.clouds.sent.push event).toList = earlier ++ (line.published ++ [event])
      rw [Array.toList_push, h.sent, List.append_assoc]
    · rw [List.length_append]
      exact Nat.le_succ_of_le h.length_le
    · intro j arrived hj
      have hold := h.aligned j arrived hj
      rw [List.getElem?_append_left (List.getElem?_eq_some_iff.1 hold).1]
      exact hold
    · intro hfew
      rw [List.length_append] at hfew
      exact h.tallies (Nat.lt_of_le_of_lt (Nat.le_add_right _ _) hfew)
    · intro hmem
      exact absurd ((h.drained hmem).1.symm.trans hopen) Bool.false_ne_true
    · rw [List.length_append]
      exact Nat.le_refl _

/-- The bus gets and loses handles, and may close; the shutdown may be raised. -/
theorem of_bus (h : Sound s output earlier line) {bus : Bus} {shutdown : Bool}
    (hlisteners : bus.clouds.listeners = line.bus.clouds.listeners)
    (hsent : bus.clouds.sent = line.bus.clouds.sent)
    (hopen : line.bus.clouds.isOpen = false → bus.clouds.isOpen = false) :
    Sound s output earlier { line with bus, shutdown } where
  topic := h.topic
  listeners := hlisteners ▸ h.listeners
  sent := hsent ▸ h.sent
  position := h.position
  length_le := h.length_le
  aligned := h.aligned
  follows := h.follows
  tallies := h.tallies
  sequential := h.sequential
  drained := fun hmem => ⟨hopen (h.drained hmem).1, (h.drained hmem).2⟩

/-- **Whatever happens keeps the books right**, unless more events were published than a word can
count. -/
theorem act (h : Sound s output earlier line) (htree : s.tree.Built IsNumber)
    (happening : Happening) :
    (∃ line', line.act happening = .ok line' ∧ Sound s output earlier line' ∧
      line'.published.length ≤ line.published.length + if happening.isPublish then 1 else 0) ∨
    UInt64.size ≤ line.published.length ∧ ∃ crash, line.act happening = .error crash := by
  cases happening with
  | publish event => exact .inl (h.publish event)
  | step stamp =>
    rcases h.step htree stamp with ⟨line', hact, hsound, hpublished⟩ | hcrash
    · exact .inl ⟨line', hact, hsound, hpublished ▸ Nat.le_refl _⟩
    · exact .inr hcrash
  | wake =>
    have hidle : Sound s output earlier
        { line with feed := line.feed.wake, notices := line.notices ++ [] } := by
      unfold Feed.wake
      split
      · exact h.idle rfl rfl rfl fun hmem => absurd hmem List.not_mem_nil
      · exact h.idle rfl rfl rfl fun hmem => absurd hmem List.not_mem_nil
    rw [List.append_nil] at hidle
    exact .inl ⟨_, rfl, hidle, Nat.le_refl _⟩
  | raise => exact .inl ⟨_, rfl, h.of_bus rfl rfl id, Nat.le_refl _⟩
  | clone => exact .inl ⟨_, rfl, h.of_bus rfl rfl id, Nat.le_refl _⟩
  | drop =>
    refine .inl ⟨_, rfl, h.of_bus ?_ ?_ ?_, Nat.le_refl _⟩
    · unfold Bus.dropHandle
      split <;> rfl
    · unfold Bus.dropHandle
      split <;> rfl
    · intro hclosed
      unfold Bus.dropHandle
      split
      · rfl
      · exact hclosed
  | others change =>
    have hadvance : Sound s output earlier { line with
        feed := { line.feed with output := change line.feed.output }
        log := line.log ++ [.others change]
        notices := line.notices ++ [] } := by
      refine h.advance rfl h.length_le ?_ ?_ ?_ rfl List.not_mem_nil
      · intro j event hj
        simp [Intake.fates] at hj
      · simpa [Intake.fates] using h.follows
      · intro hfew
        simpa [Intake.fates] using h.tallies hfew
    rw [List.append_nil] at hadvance
    exact .inl ⟨_, rfl, hadvance, Nat.le_refl _⟩

end Sound

end Line

end CollisionWatch
