import CollisionWatch.Bus.Observer
import CollisionWatch.Proofs.Bus.Topics

/-!
# What an observer sees

A look at a topic takes everything that waits there, one event after the other and over any lags,
and remembers the last. So after the look the observer knows the newest event of the topic, or what
it knew before if nothing was waiting (`latest_observe`). The newest event can be told without
looking (`Observer.newest`), which is how other parts reason about it between two looks. Through
any run it is the last of the events that were published on the topic since the observer came
(`Observer.Tracks`), whatever they carry.
-/

namespace CollisionWatch.Observer

/-- The event that a look at the topic would end with. -/
def newest (observer : Observer) (bus : Bus) : Option Event :=
  let channel := bus.channel observer.listener.topic
  if observer.listener.position < channel.sent.size then channel.sent.back? else observer.latest

/-- Draining a channel ends with its last event, at its end. -/
theorem drain_eq {ch : Channel Event} (hcapacity : 0 < ch.capacity) (position : Nat)
    (latest : Option Event) (notices : List Notice) :
    (drain ch position latest notices).1 =
        (if position < ch.sent.size then ch.sent.back? else latest) ∧
      (drain ch position latest notices).2.1 = max position ch.sent.size := by
  fun_induction drain ch position latest notices with
  | case1 position latest notices hlag ih =>
    -- At the oldest event that is left there is one: the channel has room for it.
    have holdest : ch.oldest < ch.sent.size := by
      unfold Channel.oldest at hlag ⊢
      omega
    rw [ih.1, ih.2, if_pos holdest, if_pos (by omega)]
    exact ⟨rfl, by omega⟩
  | case2 position latest notices hlag hlt ih =>
    rw [ih.1, ih.2, if_pos hlt]
    refine ⟨?_, by omega⟩
    split
    · rfl
    · have hlast : position = ch.sent.size - 1 := by omega
      rw [Array.back?_eq_getElem?, ← hlast, Array.getElem?_eq_getElem hlt]
  | case3 position latest notices hlag hge =>
    rw [if_neg hge]
    refine ⟨rfl, ?_⟩
    change position = max position ch.sent.size
    omega

variable {observer : Observer} {bus : Bus}

/-- **After a look the observer knows the newest event.** -/
theorem latest_observe (h : 0 < (bus.channel observer.listener.topic).capacity) :
    (observer.observe bus).1.latest = observer.newest bus :=
  (drain_eq h observer.listener.position observer.latest []).1

/-- After a look the observer has come to the end of the topic. -/
theorem position_observe (h : 0 < (bus.channel observer.listener.topic).capacity) :
    (observer.observe bus).1.listener.position =
      max observer.listener.position (bus.channel observer.listener.topic).sent.size :=
  (drain_eq h observer.listener.position observer.latest []).2

/-- A look does not change the topic. -/
@[simp] theorem topic_observe :
    (observer.observe bus).1.listener.topic = observer.listener.topic := rfl

/-- A look does not change what the newest event is. -/
theorem newest_observe (h : 0 < (bus.channel observer.listener.topic).capacity) :
    (observer.observe bus).1.newest bus = observer.newest bus := by
  rw [newest, topic_observe, position_observe h, if_neg (by omega), latest_observe h]

/-- The newest event is that of the topic: what else happens to the bus does not count. -/
theorem newest_congr {bus' : Bus} (h : (bus'.channel observer.listener.topic).sent =
      (bus.channel observer.listener.topic).sent) :
    observer.newest bus' = observer.newest bus := by
  rw [newest, newest, h]

/-- A new observer knows of no event. -/
theorem newest_create (bus : Bus) (topic : Topic) :
    (create bus topic).1.newest (create bus topic).2 = none := by
  have hlistener : (create bus topic).1.listener = ⟨topic, (bus.channel topic).sent.size⟩ :=
    bus.listener_subscribe topic
  have hsent : ((create bus topic).2.channel topic).sent = (bus.channel topic).sent := by
    change ((bus.subscribe topic).2.channel topic).sent = _
    rw [bus.channel_subscribe, if_pos rfl]
  rw [newest, hlistener, if_neg (by rw [hsent]; exact Nat.lt_irrefl _)]
  rfl

/-- **An event that is published to listeners is the newest one.** -/
theorem newest_publish (observer : Observer) (bus : Bus)
    (hlisteners : 0 < (bus.channel observer.listener.topic).listeners)
    (hposition : observer.listener.position ≤ (bus.channel observer.listener.topic).sent.size)
    (event : Event) :
    observer.newest (bus.publish observer.listener.topic event).2 = some event := by
  have hsent :
      ((bus.publish observer.listener.topic event).2.channel observer.listener.topic).sent =
        (bus.channel observer.listener.topic).sent.push event := by
    rw [bus.channel_publish, if_pos ⟨rfl, hlisteners⟩]
    rfl
  rw [newest, hsent, Array.size_push, if_pos (Nat.lt_succ_of_le hposition), Array.back?_push]

/-! ## Events one after the other -/

/-- A look at the topic would end with the last of these events. -/
structure Tracks (events : List Event) (bus : Bus) (observer : Observer) : Prop where
  /-- The observer has not come further than they have. -/
  position : observer.listener.position ≤ (bus.channel observer.listener.topic).sent.size
  /-- It would find the last one. -/
  newest_eq : observer.newest bus = events.getLast?

/-- A new observer has no events yet. -/
theorem tracks_create (bus : Bus) (topic : Topic) :
    Tracks [] (create bus topic).2 (create bus topic).1 where
  position := by
    have hlistener : (create bus topic).1.listener = ⟨topic, (bus.channel topic).sent.size⟩ :=
      bus.listener_subscribe topic
    have hchannel := bus.channel_subscribe topic topic
    rw [if_pos rfl] at hchannel
    rw [hlistener]
    exact Nat.le_of_eq (congrArg (·.sent.size) hchannel).symm
  newest_eq := newest_create bus topic

namespace Tracks

variable {events : List Event}

/-- What leaves the events of the topic alone changes nothing. -/
theorem congr (h : Tracks events bus observer) {bus' : Bus}
    (hsent : (bus'.channel observer.listener.topic).sent =
      (bus.channel observer.listener.topic).sent) : Tracks events bus' observer where
  position := hsent ▸ h.position
  newest_eq := (newest_congr hsent).trans h.newest_eq

/-- An event that is published on the topic is the last one. -/
theorem publish (h : Tracks events bus observer)
    (hlisteners : 0 < (bus.channel observer.listener.topic).listeners) (event : Event) :
    Tracks (events ++ [event]) (bus.publish observer.listener.topic event).2 observer where
  position := by
    rw [bus.channel_publish, if_pos ⟨rfl, hlisteners⟩]
    change _ ≤ ((bus.channel observer.listener.topic).sent.push event).size
    rw [Array.size_push]
    exact Nat.le_succ_of_le h.position
  newest_eq := by
    rw [newest_publish observer bus hlisteners h.position, List.getLast?_concat]

/-- A look changes nothing for the next one. -/
theorem observe (h : Tracks events bus observer)
    (hcapacity : 0 < (bus.channel observer.listener.topic).capacity) :
    Tracks events bus (observer.observe bus).1 where
  position := by
    rw [topic_observe, position_observe hcapacity]
    exact Nat.max_le.2 ⟨h.position, Nat.le_refl _⟩
  newest_eq := (newest_observe hcapacity).trans h.newest_eq

end Tracks

end CollisionWatch.Observer
