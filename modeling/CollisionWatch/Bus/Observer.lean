import CollisionWatch.Bus.Basic
import CollisionWatch.Notice

/-!
# Observers of the latest event

An observer looks at a topic when it likes and remembers only the newest event.  Between its looks
the remembered event stays, so a quiet topic keeps reporting its last word.
-/

namespace CollisionWatch

/-- A listener that remembers the newest event. -/
structure Observer where
  /-- The topic and the position in its channel. -/
  listener : Listener
  /-- The newest event seen. -/
  latest : Option Event := none
  deriving Repr

namespace Observer

/-- A new observer of a topic; it sees what is published from now on. -/
def create (bus : Bus) (topic : Topic) : Observer × Bus :=
  let (listener, bus) := bus.subscribe topic
  ({ listener }, bus)

/-- Take everything that waits in a channel: the newest event, the position after it, and a notice
for every lag. -/
def drain (ch : Channel Event) (position : Nat) (latest : Option Event) (notices : List Notice) :
    Option Event × Nat × List Notice :=
  if position < ch.oldest then drain ch ch.oldest latest (notices ++ [.observerLagged])
  else if h : position < ch.sent.size then drain ch (position + 1) (some ch.sent[position]) notices
  else (latest, position, notices)
termination_by ch.sent.size - position
decreasing_by
  all_goals
    have : ch.oldest ≤ ch.sent.size := Nat.sub_le _ _
    omega

/-- The observer after a look at its topic. -/
def observe (observer : Observer) (bus : Bus) : Observer × List Notice :=
  let (latest, position, notices) :=
    drain (bus.channel observer.listener.topic) observer.listener.position observer.latest []
  (⟨{ observer.listener with position }, latest⟩, notices)

end Observer

end CollisionWatch
