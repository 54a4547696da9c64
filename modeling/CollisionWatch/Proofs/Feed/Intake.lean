import CollisionWatch.Proofs.Runs
import CollisionWatch.Proofs.Sentinel.Tally
import CollisionWatch.Sentinel.Feed

/-!
# What a feed hands to its sentinel

A feed looks at a bus, and a look brings its sentinel one event, or the news of a gap, or nothing
(`Feed.intakes`). The plain way to give a sentinel the same things is to hand them over one after
the other, without a bus, a listener or a shutdown (`Sentinel.follow`). A step of a feed does to its
sentinel what the plain way does with what the step brought (`Feed.step_of_looking`,
`Feed.exists_step_of_not_looking`).

Every intake settles the fate of some published events: an event arrived, or it is lost.
-/

namespace CollisionWatch

/-- Something that happens to a sentinel and the bus of its verdicts. -/
inductive Intake where
  /-- An event arrives. -/
  | event (event : Event) (stamp : Stamp)
  /-- This many events are lost. -/
  | gap (count : Nat)
  /-- Others do something with the bus of the verdicts. -/
  | others (change : Bus → Bus)

namespace Intake

/-- The events whose fate an intake settles: the event that arrived, or nothing for a lost one. -/
def fates : Intake → List (Option Event)
  | event arrived _ => [some arrived]
  | gap count => List.replicate count none
  | others _ => []

/-- A sentinel and the bus of its verdicts after an intake. -/
def pass (s : Sentinel) (output : Bus) : Intake → Except Crash (Sentinel × Bus)
  | event arrived stamp =>
    match arrived.payload with
    | .cloud cloud => do
      let outcome ← s.process cloud output stamp
      return (outcome.sentinel, outcome.bus)
    | .verdict _ => .ok (s, output)
  | gap count => do
    let (s, _) ← s.discardStreak count.toUInt64
    return (s, output)
  | others change => .ok (s, change output)

end Intake

namespace Sentinel

/-- The plain run: a sentinel takes one thing after the other. -/
def follow (s : Sentinel) (output : Bus) (log : List Intake) : Except Crash (Sentinel × Bus) :=
  log.foldlM (fun state intake => intake.pass state.1 state.2) (s, output)

/-- The mark of an event: that of its cloud, if it carries one. -/
def eventMark (s : Sentinel) (event : Event) : Mark :=
  match event.payload with
  | .cloud cloud => s.markOf cloud
  | .verdict _ => .stray

/-- The mark of an event by its fate. -/
def fateMark (s : Sentinel) : Option Event → Mark
  | some event => s.eventMark event
  | none => .gap

/-- An event that arrived is no gap. -/
theorem eventMark_ne_gap (s : Sentinel) (event : Event) : s.eventMark event ≠ .gap := by
  unfold eventMark
  split
  · unfold markOf
    split
    · split
      · unfold Mark.ofDecision
        split <;> simp
      · simp
    · simp
  · simp

/-! ## A sentinel knows nothing of its feed -/

/-- Publishing a verdict does not announce the end of the feed. -/
theorem feedClosed_not_mem_announce (s : Sentinel) (bus : Bus) (stamp : Stamp) :
    .feedClosed ∉ (s.announce bus stamp).notices := by
  unfold announce
  cases s.streak.isPersistent <;> dsimp only <;> split <;> simp

/-- Judging a cloud does not announce the end of the feed. -/
theorem feedClosed_not_mem_process {s : Sentinel} {cloud : Cloud} {bus : Bus} {stamp : Stamp}
    {outcome : Outcome} (h : s.process cloud bus stamp = .ok outcome) :
    .feedClosed ∉ outcome.notices := by
  unfold process at h
  by_cases hfinite : cloud.time.isFinite = true
  · rw [hfinite] at h
    cases hresolve : s.tree.resolve cloud.time s.vehicle cloud.frame with
    | error crash =>
      rw [hresolve] at h
      cases h
    | ok answer =>
      rw [hresolve] at h
      cases answer with
      | error fault =>
        obtain rfl := Except.ok.inj h
        simp [giveUp]
      | ok pose =>
        obtain rfl := Except.ok.inj h
        exact feedClosed_not_mem_announce _ bus stamp
  · rw [Bool.not_eq_true] at hfinite
    rw [hfinite] at h
    obtain rfl := Except.ok.inj h
    simp [giveUp]

/-- No notice about a gap says that the feed is closed. -/
theorem feedClosed_not_mem_discardStreak {s s' : Sentinel} {lost : UInt64} {notices : List Notice}
    (h : s.discardStreak lost = .ok (s', notices)) : .feedClosed ∉ notices := by
  unfold discardStreak at h
  split at h
  · cases h
  · obtain ⟨-, rfl⟩ := Prod.mk.inj (Except.ok.inj h)
    split <;> simp

end Sentinel

/-- What a receipt brings to a sentinel. -/
def Receipt.intakes (stamp : Stamp) : Receipt Event → List Intake
  | .event arrived => [.event arrived stamp]
  | .lagged count => [.gap count]
  | .pending | .closed => []

namespace Feed

variable {feed : Feed} {shutdown : Bool}

/-- The next step of the feed looks at the bus. -/
def isLooking (feed : Feed) (shutdown : Bool) : Bool :=
  match feed.phase with
  | .ready => !shutdown
  | .waiting => true
  | _ => false

/-- What the next step of the feed brings to its sentinel. -/
def intakes (feed : Feed) (bus : Bus) (shutdown : Bool) (stamp : Stamp) : List Intake :=
  if feed.isLooking shutdown then (feed.listener.receive bus).1.intakes stamp else []

/-- A step that looks at the bus receives what is there. -/
theorem step_of_looking (h : feed.isLooking shutdown = true) (bus : Bus) (stamp : Stamp) :
    feed.step bus shutdown stamp = feed.receive bus stamp ∧
      feed.intakes bus shutdown stamp = (feed.listener.receive bus).1.intakes stamp := by
  refine ⟨?_, if_pos h⟩
  unfold isLooking at h
  unfold step
  cases hphase : feed.phase with
  | fresh => simp [hphase] at h
  | ready =>
    rw [hphase] at h
    dsimp only at h ⊢
    rw [if_neg (by simpa using h)]
  | waiting => rfl
  | stopped => simp [hphase] at h

/-- A step that takes a cloud lets the sentinel process it. -/
theorem step_of_cloud (hlooking : feed.isLooking shutdown = true) {bus : Bus} {stamp : Stamp}
    {event : Event} {listener : Listener} {cloud : Cloud} {outcome : Sentinel.Outcome}
    (hreceive : feed.listener.receive bus = (.event event, listener))
    (hcloud : event.payload = .cloud cloud)
    (hprocess : feed.sentinel.process cloud feed.output stamp = .ok outcome) :
    feed.step bus shutdown stamp =
      .ok (⟨outcome.sentinel, listener, outcome.bus, .ready⟩, outcome.notices) := by
  rw [(step_of_looking hlooking bus stamp).1, receive, hreceive]
  dsimp only
  rw [accept, hcloud]
  dsimp only
  rw [hprocess]
  rfl

/-- A step that brings an event looks at the bus and finds the event there. -/
theorem exists_receive_eq {bus : Bus} {stamp : Stamp} {event : Event}
    (h : feed.intakes bus shutdown stamp = [.event event stamp]) :
    feed.isLooking shutdown = true ∧
      ∃ listener, feed.listener.receive bus = (.event event, listener) := by
  unfold intakes at h
  cases hlooking : feed.isLooking shutdown with
  | false =>
    rw [hlooking, if_neg Bool.false_ne_true] at h
    cases h
  | true =>
    rw [hlooking, if_pos rfl] at h
    rcases hreceive : feed.listener.receive bus with ⟨receipt, listener⟩
    rw [hreceive] at h
    cases receipt with
    | event arrived =>
      obtain ⟨rfl, -⟩ := Intake.event.inj (List.singleton_inj.1 h)
      exact ⟨rfl, listener, rfl⟩
    | lagged count => cases List.singleton_inj.1 h
    | pending => cases h
    | closed => cases h

/-- Any other step changes at most where the feed stands. -/
theorem exists_step_of_not_looking (h : feed.isLooking shutdown = false) (bus : Bus)
    (stamp : Stamp) :
    ∃ phase notices, feed.step bus shutdown stamp = .ok ({ feed with phase }, notices) ∧
      .feedClosed ∉ notices ∧ feed.intakes bus shutdown stamp = [] := by
  have hintakes : feed.intakes bus shutdown stamp = [] := if_neg (by rw [h]; decide)
  unfold isLooking at h
  unfold step
  cases hphase : feed.phase with
  | fresh => exact ⟨.ready, [.feedStarted], rfl, by decide, hintakes⟩
  | ready =>
    rw [hphase] at h
    dsimp only at h ⊢
    rw [if_pos (by simpa using h)]
    exact ⟨.stopped, [.feedStopped], rfl, by decide, hintakes⟩
  | waiting => simp [hphase] at h
  | stopped =>
    exact ⟨feed.phase, [], rfl, List.not_mem_nil, hintakes⟩

end Feed

end CollisionWatch
