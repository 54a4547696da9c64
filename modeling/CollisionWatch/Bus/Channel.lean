import CollisionWatch.Crash

/-!
# Channels

A channel hands every event to everyone who listens, each at its own pace, and never waits for
anyone.  It is the list of all events sent so far; a listener is a position in that list.  Only the
last `capacity` events can still be received: a listener further behind is told how many it lost and
goes on at the oldest event that is left.
-/

namespace CollisionWatch

/-- A channel for events of one kind. -/
structure Channel (ε : Type) where
  /-- How many events can wait for a listener. -/
  capacity : Nat
  /-- All events sent so far. -/
  sent : Array ε := #[]
  /-- How many listen. -/
  listeners : Nat := 0
  /-- There may be more events to come. -/
  isOpen : Bool := true
  deriving Repr

/-- What a listener gets. -/
inductive Receipt (ε : Type) where
  /-- The next event. -/
  | event (event : ε)
  /-- The news that this many events were lost. -/
  | lagged (count : Nat)
  /-- Nothing yet. -/
  | pending
  /-- Nothing ever again. -/
  | closed
  deriving Repr

namespace Channel

variable {ε : Type}

/-- The largest capacity that may be asked for; places for more events have no addresses. -/
def mostCapacity : Nat := 0x100000000000000

/-- A channel for at least this many events; the capacity is a power of two. -/
def create (atLeast : Nat) : Except Crash (Channel ε) :=
  if atLeast = 0 ∨ mostCapacity < atLeast then .error .channelCapacity
  else .ok { capacity := atLeast.nextPowerOfTwo }

/-- The position of the oldest event that can still be received. -/
def oldest (ch : Channel ε) : Nat := ch.sent.size - ch.capacity

/-- The channel with one more listener, and its position: it gets what is sent from now on. -/
def subscribe (ch : Channel ε) : Nat × Channel ε :=
  (ch.sent.size, { ch with listeners := ch.listeners + 1 })

/-- The channel with one listener less. -/
def unsubscribe (ch : Channel ε) : Channel ε := { ch with listeners := ch.listeners - 1 }

/-- The channel with one more event. -/
def send (ch : Channel ε) (event : ε) : Channel ε := { ch with sent := ch.sent.push event }

/-- What a listener at this position gets, and its next position. -/
def receive (ch : Channel ε) (position : Nat) : Receipt ε × Nat :=
  if position < ch.oldest then (.lagged (ch.oldest - position), ch.oldest)
  else
    match ch.sent[position]? with
    | some event => (.event event, position + 1)
    | none => (if ch.isOpen then .pending else .closed, position)

/-- A lagging listener is told once, and then gets the oldest event that is left. -/
theorem receive_of_lagging (ch : Channel ε) {position : Nat} (h : position < ch.oldest) :
    ch.receive position = (.lagged (ch.oldest - position), ch.oldest) := by
  simp [receive, h]

/-- A listener that does not lag receives the event at its position. -/
theorem receive_of_kept (ch : Channel ε) {position : Nat} (h : ch.oldest ≤ position)
    (hlt : position < ch.sent.size) :
    ch.receive position = (.event ch.sent[position], position + 1) := by
  simp [receive, Nat.not_lt.2 h, hlt]

/-- One that has received all events waits, or finds the channel closed. -/
theorem receive_of_drained (ch : Channel ε) {position : Nat} (h : ch.oldest ≤ position)
    (hge : ch.sent.size ≤ position) :
    ch.receive position = (if ch.isOpen then .pending else .closed, position) := by
  simp [receive, Nat.not_lt.2 h, hge]

end Channel

end CollisionWatch
