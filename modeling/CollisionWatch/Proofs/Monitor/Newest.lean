import CollisionWatch.Proofs.Monitor.Vigil

/-!
# What the brakes follow

A topic carries any events, so clouds may come among the verdicts. The brake monitor looks at the
newest event and not at the newest verdict: after a round the status is the one that the newest
event asks for (`Vigil.status_of_newest_event`). As long as the newest event is a verdict this comes
to the same. It also does if the newest verdict is no collision, because an event without a verdict
asks for nothing; but a collision is taken back by any such event (`Vigil.stray_releases`).
-/

namespace CollisionWatch

namespace Event

/-- The verdict that the event carries. -/
def verdict? (event : Event) : Option Verdict := event.payload.verdict?

/-- The event carries a verdict that announces a collision. -/
def isAlarm (event : Event) : Bool := event.verdict?.any (·.collision)

/-- The newest verdict that the events carry. -/
def newestVerdict? (events : List Event) : Option Verdict := (events.filterMap verdict?).getLast?

/-- The newest event is the one with the newest verdict, if it carries any. -/
theorem newestVerdict?_append_singleton (events : List Event) {event : Event} {verdict : Verdict}
    (h : event.verdict? = some verdict) : newestVerdict? (events ++ [event]) = some verdict := by
  unfold newestVerdict?
  rw [List.filterMap_append, List.filterMap_cons_some h, List.filterMap_nil, List.getLast?_concat]

/-- **The newest event announces a collision exactly if the newest verdict does, unless that verdict
is a collision and something else came after it.** -/
theorem isAlarm_iff_newestVerdict? (events : List Event) :
    (events.getLast?.any isAlarm = true ↔
        (newestVerdict? events).any (·.collision) = true) ↔
      ((newestVerdict? events).any (·.collision) = true →
        events.getLast?.any (·.verdict?.isSome) = true) := by
  rcases List.eq_nil_or_concat events with rfl | ⟨earlier, event, rfl⟩
  · simp [newestVerdict?]
  · rw [List.concat_eq_append, List.getLast?_concat, Option.any_some, Option.any_some, isAlarm]
    cases hverdict : event.verdict? with
    | none => simp
    | some verdict => simp [newestVerdict?_append_singleton earlier hverdict]

end Event

namespace Vigil

open BrakeMonitor (component)

/-- The event that a step puts among the verdicts. -/
def Step.verdictEvent? : Step → Option Event
  | .publish .collisionWarning event => some event
  | _ => none

/-- The step neither breaks the board nor takes the monitor or any event off the verdicts. What else
happens to the bus may bring listeners and take them away. -/
def Step.IsOrderly : Step → Prop
  | .breakOff => False
  | .bus change => ∀ bus : Bus, (change bus).verdicts.sent = bus.verdicts.sent ∧
      (change bus).verdicts.capacity = bus.verdicts.capacity ∧
      (0 < bus.verdicts.listeners → 0 < (change bus).verdicts.listeners)
  | _ => True

/-- The monitor would find the last of these events, and could write what it asks for. -/
structure Attends (events : List Event) (v : Vigil) : Prop where
  /-- The monitor listens to verdicts. -/
  topic : v.monitor.observer.listener.topic = .collisionWarning
  /-- Its observer knows the events, or will at its next look. -/
  tracks : v.monitor.observer.Tracks events v.bus
  /-- There is room for an event. -/
  capacity : 0 < v.bus.verdicts.capacity
  /-- Events are sent, because somebody listens. -/
  listeners : 0 < v.bus.verdicts.listeners
  /-- The status can be written. -/
  poisoned : v.board.poisoned = false
  /-- It has a place for the monitor. -/
  component : v.board.status.components.contains component = true

variable {events : List Event} {v : Vigil}

/-- A new monitor on a board with its component attends to what comes. -/
theorem attends_start {names : List String} (hnames : component ∈ names) {bus : Bus}
    (hcapacity : 0 < bus.verdicts.capacity) (interval : Duration) :
    Attends [] (start names bus interval) where
  topic := rfl
  tracks := Observer.tracks_create bus .collisionWarning
  capacity := hcapacity
  listeners := Nat.succ_pos _
  poisoned := rfl
  component := (⟨rfl, fun _ _ => rfl⟩ : (SafetyStatus.ofNames names).Keeps names).contains_iff.2 hnames

/-- An event among the verdicts is the last one then. -/
theorem Attends.publish (h : Attends events v) (event : Event) :
    Attends (events ++ [event]) (v.step (.publish .collisionWarning event)) := by
  have htracks := h.tracks.publish (h.topic ▸ h.listeners) event
  rw [h.topic] at htracks
  refine ⟨h.topic, htracks, ?_, ?_, h.poisoned, h.component⟩
  · have hsame := v.bus.capacity_publish .collisionWarning .collisionWarning event
    exact hsame.symm ▸ h.capacity
  · have hsame := v.bus.listeners_publish .collisionWarning .collisionWarning event
    exact hsame.symm ▸ h.listeners

/-- A change that leaves the verdicts alone is not noticed. -/
theorem Attends.bus (h : Attends events v) {change : Bus → Bus}
    (hchange : (Step.bus change).IsOrderly) : Attends events (v.step (.bus change)) := by
  obtain ⟨hsent, hcapacity, hlisteners⟩ := hchange v.bus
  refine ⟨h.topic, h.tracks.congr ?_, hcapacity ▸ h.capacity, hlisteners h.listeners, h.poisoned,
    h.component⟩
  rw [h.topic]
  exact hsent

/-- A cloud among the clouds is not noticed. -/
theorem Attends.carry (h : Attends events v) (event : Event) :
    Attends events (v.step (.publish .pointCloud event)) := by
  have hverdicts : (v.bus.publish .pointCloud event).2.verdicts = v.bus.verdicts :=
    (v.bus.channel_publish .pointCloud .collisionWarning event).trans (if_neg (by simp))
  refine ⟨h.topic, h.tracks.congr ?_, ?_, ?_, h.poisoned, h.component⟩
  · rw [h.topic]
    exact congrArg (·.sent) hverdicts
  · exact hverdicts.symm ▸ h.capacity
  · exact hverdicts.symm ▸ h.listeners

/-- The channel that the monitor attends has room for an event. -/
theorem Attends.capacity_pos (h : Attends events v) :
    0 < (v.bus.channel v.monitor.observer.listener.topic).capacity := by
  rw [h.topic]
  exact h.capacity

/-- A round writes what the last event asks for. -/
theorem Attends.board_round (h : Attends events v) (time : Float) :
    (v.step (.round time)).board = { v.board with
      status := (BrakeMonitor.assess (events.getLast?.any Event.isAlarm) time v.board.status).2 } := by
  have hforesees : v.monitor.foresees v.bus = events.getLast?.any Event.isAlarm := by
    unfold BrakeMonitor.foresees
    rw [h.tracks.newest_eq]
    cases events.getLast? <;> rfl
  rw [← hforesees]
  exact BrakeMonitor.board_round h.capacity_pos h.poisoned h.component time

/-- A round changes nothing for the next one. -/
theorem Attends.round (h : Attends events v) (time : Float) :
    Attends events (v.step (.round time)) := by
  have hobserver : (v.step (.round time)).monitor.observer =
      (v.monitor.observer.observe v.bus).1 := BrakeMonitor.observer_round time
  refine ⟨?_, ?_, h.capacity, h.listeners, ?_, ?_⟩
  · rw [hobserver]
    exact h.topic
  · rw [hobserver]
    exact h.tracks.observe h.capacity_pos
  · rw [h.board_round]
    exact h.poisoned
  · rw [h.board_round, BrakeMonitor.contains_assess]
    exact h.component

/-- Every orderly step is attended to. -/
theorem Attends.step (h : Attends events v) {s : Step} (hs : s.IsOrderly) :
    Attends (events ++ s.verdictEvent?.toList) (v.step s) := by
  have hstay : s.verdictEvent? = none → Attends events (v.step s) →
      Attends (events ++ s.verdictEvent?.toList) (v.step s) := by
    intro hnone hnext
    rw [hnone, Option.toList_none, List.append_nil]
    exact hnext
  cases s with
  | publish topic event =>
    cases topic with
    | pointCloud => exact hstay rfl (h.carry event)
    | collisionWarning => exact h.publish event
  | bus change => exact hstay rfl (h.bus hs)
  | round time => exact hstay rfl (h.round time)
  | breakOff => exact hs.elim

/-- Orderly steps are attended to, one after the other. -/
theorem Attends.run (h : Attends events v) {steps : List Step} (hsteps : ∀ s ∈ steps, s.IsOrderly) :
    Attends (events ++ steps.filterMap Step.verdictEvent?) (v.run steps) := by
  induction steps generalizing events v with
  | nil =>
    rw [List.filterMap_nil, List.append_nil]
    exact h
  | cons s rest ih =>
    obtain ⟨hs, hrest⟩ := List.forall_mem_cons.1 hsteps
    have hnext := ih (h.step hs) hrest
    rw [List.append_assoc] at hnext
    have hevents : (s :: rest).filterMap Step.verdictEvent? =
        s.verdictEvent?.toList ++ rest.filterMap Step.verdictEvent? := by
      rw [List.filterMap_cons]
      cases s.verdictEvent? <;> rfl
    rw [hevents]
    exact hnext

/-! ## After a round -/

/-- **After a round readers find the status that the last event asks for.** -/
theorem Attends.snapshot_round (h : Attends events v) (time : Float) :
    ∃ status, (v.step (.round time)).board.snapshot = .ok status ∧
      (events.getLast?.any Event.isAlarm = true → BrakeMonitor.IsBraking time status) ∧
      (events.getLast?.any Event.isAlarm = false → BrakeMonitor.IsReleased status) := by
  rw [h.board_round]
  refine ⟨_, if_neg (by simp [h.poisoned]), ?_, ?_⟩
  · intro halarm
    rw [halarm]
    exact BrakeMonitor.isBraking_assess h.component time
  · intro hcalm
    rw [hcalm]
    exact BrakeMonitor.isReleased_assess h.component time

/-- A round at the end of a run. -/
theorem run_append_round (v : Vigil) (steps : List Step) (time : Float) :
    v.run (steps ++ [.round time]) = (v.run steps).step (.round time) :=
  List.foldl_append

/-- **After every round the status is the one that the newest event among the verdicts asks for**:
it demands a stop exactly if that event announces a collision. So it follows the newest verdict,
unless that verdict is a collision and an event without one came after it. -/
theorem status_of_newest_event {names : List String} (hnames : component ∈ names) {bus : Bus}
    (hcapacity : 0 < bus.verdicts.capacity) (interval : Duration) {steps : List Step}
    (hsteps : ∀ s ∈ steps, s.IsOrderly) (time : Float) :
    let events := steps.filterMap Step.verdictEvent?
    ∃ status,
      ((start names bus interval).run (steps ++ [.round time])).board.snapshot = .ok status ∧
      (events.getLast?.any Event.isAlarm = true → BrakeMonitor.IsBraking time status) ∧
      (events.getLast?.any Event.isAlarm = false → BrakeMonitor.IsReleased status) ∧
      ((status.stop = true ↔ (Event.newestVerdict? events).any (·.collision) = true) ↔
        ((Event.newestVerdict? events).any (·.collision) = true →
          events.getLast?.any (·.verdict?.isSome) = true)) := by
  intro events
  have hattends : Attends events ((start names bus interval).run steps) :=
    (attends_start hnames hcapacity interval).run hsteps
  obtain ⟨status, hsnapshot, hbraking, hreleased⟩ := hattends.snapshot_round time
  have hstop : status.stop = events.getLast?.any Event.isAlarm := by
    cases halarm : events.getLast?.any Event.isAlarm with
    | false => exact (hreleased halarm).stop
    | true => exact (hbraking halarm).stop
  refine ⟨status, ?_, hbraking, hreleased, ?_⟩
  · rw [run_append_round]
    exact hsnapshot
  · rw [hstop]
    exact Event.isAlarm_iff_newestVerdict? events

/-- A verdict that announces a collision. -/
def alarm : Event := ⟨⟨0, ⟨0, 0⟩⟩, "sentinel", .verdict ⟨0, true⟩⟩

/-- A cloud that is not where it belongs. -/
def stray : Event := ⟨⟨1, ⟨0, 0⟩⟩, "sensor", .cloud ⟨"lidar", 0, []⟩⟩

/-- A monitor on a bus of the usual capacity, and its board. -/
def usual : Vigil := start ["Collision"] .usual .tenthOfSecond

/-- A collision that is announced after a stray cloud stops the vehicle, whoever else listens. -/
theorem status_of_late_alarm :
    ∃ status, (usual.run [.publish .collisionWarning stray, .round 1,
        .bus fun bus => (bus.subscribe .collisionWarning).2, .publish .collisionWarning alarm,
        .round 2]).board.snapshot = .ok status ∧
      BrakeMonitor.IsBraking 2 status ∧
      (status.stop = true ↔
        (Event.newestVerdict? [stray, alarm]).any (·.collision) = true) := by
  have horderly : ∀ s ∈ [Step.publish .collisionWarning stray, .round 1,
      .bus fun bus => (bus.subscribe .collisionWarning).2, .publish .collisionWarning alarm],
      s.IsOrderly := by
    simp [Step.IsOrderly, Bus.subscribe, Bus.modifyChannel, Channel.subscribe, Bus.channel]
  obtain ⟨status, hsnapshot, hbraking, -, hfollows⟩ :=
    @status_of_newest_event ["Collision"] (by decide) .usual (by decide) .tenthOfSecond _ horderly 2
  exact ⟨status, hsnapshot, hbraking rfl, hfollows.2 fun _ => rfl⟩

/-- **A stray cloud takes a collision back**, although the newest verdict still announces it. -/
theorem stray_releases :
    ∃ before after, (usual.run [.publish .collisionWarning alarm, .round 1]).board.snapshot =
        .ok before ∧ before.stop = true ∧
      (usual.run [.publish .collisionWarning alarm, .round 1, .publish .collisionWarning stray,
        .round 2]).board.snapshot = .ok after ∧ after.stop = false ∧
      (Event.newestVerdict? [alarm, stray]).any (·.collision) = true := by
  have hstart : Attends [] usual := attends_start (by decide) (by decide) .tenthOfSecond
  have halarm := hstart.publish alarm
  have hstray := (halarm.round 1).publish stray
  obtain ⟨before, hbefore, hbraking, -⟩ := halarm.snapshot_round 1
  obtain ⟨after, hafter, -, hreleased⟩ := hstray.snapshot_round 2
  exact ⟨before, after, hbefore, (hbraking rfl).stop, hafter, (hreleased rfl).stop, rfl⟩

end Vigil

end CollisionWatch
