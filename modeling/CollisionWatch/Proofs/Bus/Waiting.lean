import CollisionWatch.Proofs.Bus.Topics
import Mathlib.Data.List.DropRight

/-!
# What waits for a listener

A listener of a topic gets the events from its position on, as far as the channel still keeps them
(`Listener.waiting`); it takes them one at a time (`Listener.waiting_receive`). An event that is
published on the topic is the last of them then, and if there was no room left the first one makes
room for it (`Listener.waiting_publish`).
-/

namespace CollisionWatch.Listener

/-- The events that a listener would get if no more were sent. -/
def waiting (listener : Listener) (bus : Bus) : List Event :=
  let channel := bus.channel listener.topic
  channel.sent.toList.drop (max listener.position channel.oldest)

/-- **A listener takes the first of the events that wait for it.** The news of a lag takes none, and
there is nothing else to hear exactly if no event waits. -/
theorem waiting_receive (listener : Listener) (bus : Bus) :
    match (listener.receive bus).1 with
    | .event event => listener.waiting bus = event :: (listener.receive bus).2.waiting bus
    | .lagged _ => (listener.receive bus).2.waiting bus = listener.waiting bus
    | .pending | .closed => listener.waiting bus = [] := by
  unfold receive waiting
  dsimp only
  by_cases hlag : listener.position < (bus.channel listener.topic).oldest
  · rw [Channel.receive_of_lagging _ hlag]
    dsimp only
    rw [Nat.max_self, Nat.max_eq_right (Nat.le_of_lt hlag)]
  · replace hlag := Nat.not_lt.1 hlag
    rw [Nat.max_eq_left hlag]
    by_cases hkept : listener.position < (bus.channel listener.topic).sent.size
    · rw [Channel.receive_of_kept _ hlag hkept]
      dsimp only
      rw [Nat.max_eq_left (Nat.le_succ_of_le hlag)]
      exact List.drop_eq_getElem_cons hkept
    · replace hkept := Nat.not_lt.1 hkept
      rw [Channel.receive_of_drained _ hlag hkept]
      have hnone : (bus.channel listener.topic).sent.toList.drop listener.position = [] :=
        List.drop_eq_nil_of_le hkept
      cases (bus.channel listener.topic).isOpen with
      | true => exact hnone
      | false => exact hnone

/-- What a listener takes was sent. -/
theorem mem_sent_of_receive {listener : Listener} {bus : Bus} {event : Event}
    (h : (listener.receive bus).1 = .event event) :
    event ∈ (bus.channel listener.topic).sent.toList := by
  have hwaiting := listener.waiting_receive bus
  rw [h] at hwaiting
  have hmem : event ∈ listener.waiting bus := by
    rw [hwaiting]
    exact List.mem_cons_self
  exact List.mem_of_mem_drop hmem

/-- **An event that is published waits behind the others**, and drives out the first one if the
channel is full. -/
theorem waiting_publish {listener : Listener} {bus : Bus}
    (hposition : listener.position ≤ (bus.channel listener.topic).sent.size)
    (hlisteners : 0 < (bus.channel listener.topic).listeners) (event : Event) :
    listener.waiting (bus.publish listener.topic event).2 =
      (listener.waiting bus ++ [event]).rtake (bus.channel listener.topic).capacity := by
  unfold waiting Channel.oldest
  dsimp only
  rw [bus.channel_publish, if_pos ⟨rfl, hlisteners⟩]
  generalize bus.channel listener.topic = channel at hposition
  have hfirst : max listener.position (channel.sent.size - channel.capacity) ≤
      channel.sent.toList.length := Nat.max_le.2 ⟨hposition, Nat.sub_le _ _⟩
  rw [← List.drop_append_of_le_length hfirst, List.rtake, List.drop_drop, List.length_drop]
  simp only [Channel.send, Array.toList_push, Array.size_push, List.length_append,
    List.length_singleton, Array.length_toList]
  congr 1
  omega

end CollisionWatch.Listener
