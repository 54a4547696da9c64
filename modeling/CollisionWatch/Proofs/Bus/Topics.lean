import CollisionWatch.Bus.Basic

/-!
# The topics of a bus

The two topics of a bus have nothing to do with each other: what is done to one of them leaves the
channel of the other one alone (`Bus.channel_modifyChannel`). An event is sent if and only if
somebody listens to its topic (`Bus.channel_publish`), so a listener that stays gets every event
that is published after it came, or is told how many it lost.
-/

namespace CollisionWatch.Bus

variable (bus : Bus) (topic other : Topic)

/-- A change to one topic is a change to its channel only. -/
theorem channel_modifyChannel (change : Channel Event → Channel Event) :
    (bus.modifyChannel topic change).channel other =
      if topic = other then change (bus.channel other) else bus.channel other := by
  cases topic <;> cases other <;> rfl

/-- A new listener is one more on its topic. -/
theorem channel_subscribe :
    (bus.subscribe topic).2.channel other =
      if topic = other then
        { bus.channel other with listeners := (bus.channel other).listeners + 1 }
      else bus.channel other := by
  cases topic <;> cases other <;> rfl

/-- A new listener begins where the topic stands. -/
theorem listener_subscribe :
    (bus.subscribe topic).1 = ⟨topic, (bus.channel topic).sent.size⟩ := by
  cases topic <;> rfl

/-- Where somebody listens, an event is sent. -/
theorem publish_eq (h : 0 < (bus.channel topic).listeners) (event : Event) :
    bus.publish topic event =
      (.ok (bus.channel topic).listeners, bus.modifyChannel topic (·.send event)) :=
  if_neg (Nat.ne_of_gt h)

/-- Publishing sends the event to the listeners of its topic, if there are any. -/
theorem channel_publish (event : Event) :
    (bus.publish topic event).2.channel other =
      if topic = other ∧ 0 < (bus.channel topic).listeners then (bus.channel other).send event
      else bus.channel other := by
  by_cases hlisteners : (bus.channel topic).listeners = 0
  · rw [if_neg fun h => Nat.ne_of_gt h.2 hlisteners, publish, if_pos hlisteners]
  · have hpos : 0 < (bus.channel topic).listeners := Nat.pos_of_ne_zero hlisteners
    rw [bus.publish_eq topic hpos, channel_modifyChannel]
    by_cases htopic : topic = other
    · rw [if_pos htopic, if_pos ⟨htopic, hpos⟩]
    · rw [if_neg htopic, if_neg fun h => htopic h.1]

/-- Publishing keeps the room for events. -/
theorem capacity_publish (event : Event) :
    ((bus.publish topic event).2.channel other).capacity = (bus.channel other).capacity := by
  rw [channel_publish]
  split <;> rfl

/-- Publishing keeps the listeners. -/
theorem listeners_publish (event : Event) :
    ((bus.publish topic event).2.channel other).listeners = (bus.channel other).listeners := by
  rw [channel_publish]
  split <;> rfl

/-- One listener less on a topic. -/
theorem channel_unsubscribe :
    (bus.unsubscribe topic).channel other =
      if topic = other then
        { bus.channel other with listeners := (bus.channel other).listeners - 1 }
      else bus.channel other :=
  bus.channel_modifyChannel topic other Channel.unsubscribe

/-- When a handle is dropped a topic can only be closed. -/
theorem exists_channel_dropHandle :
    ∃ isOpen, bus.dropHandle.channel topic = { bus.channel topic with isOpen } := by
  unfold dropHandle
  split
  · cases topic <;> exact ⟨false, rfl⟩
  · cases topic <;> exact ⟨_, rfl⟩

/-- Both topics of a new bus have room for events. -/
theorem capacity_pos_of_create {capacity : Nat} {bus : Bus} (h : create capacity = .ok bus)
    (topic : Topic) : 0 < (bus.channel topic).capacity := by
  unfold create Channel.create at h
  split at h
  · cases h
  · obtain rfl := Except.ok.inj h
    have hpos := Nat.pos_of_isPowerOfTwo (Nat.isPowerOfTwo_nextPowerOfTwo capacity)
    cases topic <;> exact hpos

/-- Nobody listens to a new bus. -/
theorem listeners_of_create {capacity : Nat} {bus : Bus} (h : create capacity = .ok bus)
    (topic : Topic) : (bus.channel topic).listeners = 0 := by
  unfold create Channel.create at h
  split at h
  · cases h
  · obtain rfl := Except.ok.inj h
    cases topic <;> rfl

end CollisionWatch.Bus
