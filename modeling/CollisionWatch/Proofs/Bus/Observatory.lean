import CollisionWatch.Proofs.Bus.Observing
import Mathlib.Data.List.DropRight

/-!
# Observers among others

An observatory is a bus with everybody who ever came to listen: observers, who remember the newest
event of their topic, and plain listeners. Guests come and go and look when they like, events are
published on either topic in between, and once the last handle of the bus is dropped there is still
something to look at, but nothing is published and nobody comes any more.

After a look an observer knows the last event that was published on its topic since it came,
however many of them the ring has lost by then, and nothing but its own looks changes what it knows
(`Observatory.observer_isFresh`). A look is a loop over receipts; it ends because a lag is told at
most once and the channel holds no more events than it has room for (`Observer.drains_drain`).
-/

namespace CollisionWatch

namespace Observer

/-- A look takes this many receipts one after the other, from a position and with the newest event
and the notices so far: events and news of lags, and at last one that brings neither. -/
inductive Drains (ch : Channel Event) :
    Nat → Nat → Option Event → List Notice → Option Event × Nat × List Notice → Prop where
  /-- An event is the newest one then. -/
  | event {receipts position next : Nat} {latest : Option Event} {notices : List Notice}
      {event : Event} {result : Option Event × Nat × List Notice} :
      ch.receive position = (.event event, next) →
      Drains ch receipts next (some event) notices result →
      Drains ch (receipts + 1) position latest notices result
  /-- A lag is worth a notice. -/
  | lagged {receipts position next count : Nat} {latest : Option Event} {notices : List Notice}
      {result : Option Event × Nat × List Notice} :
      ch.receive position = (.lagged count, next) →
      Drains ch receipts next latest (notices ++ [.observerLagged]) result →
      Drains ch (receipts + 1) position latest notices result
  /-- Nothing more for now, or for ever. -/
  | done {position : Nat} {latest : Option Event} {notices : List Notice} :
      ch.receive position = (if ch.isOpen then .pending else .closed, position) →
      Drains ch 1 position latest notices (latest, position, notices)

/-- How many receipts a look takes: the news of a lag if there was one, the events that are left,
and the receipt that brings nothing. -/
def receiptsFrom (ch : Channel Event) (position : Nat) : Nat :=
  (if position < ch.oldest then 1 else 0) + (ch.sent.size - max position ch.oldest) + 1

/-- A look takes at most two receipts more than the channel has room for. -/
theorem receiptsFrom_le (ch : Channel Event) (position : Nat) :
    receiptsFrom ch position ≤ ch.capacity + 2 := by
  unfold receiptsFrom Channel.oldest
  split <;> omega

/-- **A look is a loop over receipts, and the loop ends.** -/
theorem drains_drain (ch : Channel Event) (position : Nat) (latest : Option Event)
    (notices : List Notice) :
    Drains ch (receiptsFrom ch position) position latest notices
      (drain ch position latest notices) := by
  fun_induction drain ch position latest notices with
  | case1 position latest notices hlag ih =>
    -- The lag is over at the oldest event that is left, so it is told once.
    have hreceipts : receiptsFrom ch position = receiptsFrom ch ch.oldest + 1 := by
      unfold receiptsFrom
      rw [if_pos hlag, if_neg (Nat.lt_irrefl _)]
      omega
    rw [hreceipts]
    exact .lagged (ch.receive_of_lagging hlag) ih
  | case2 position latest notices hlag hlt ih =>
    have hreceipts : receiptsFrom ch position = receiptsFrom ch (position + 1) + 1 := by
      unfold receiptsFrom
      rw [if_neg hlag, if_neg (by omega)]
      omega
    rw [hreceipts]
    exact .event (ch.receive_of_kept (Nat.not_lt.1 hlag) hlt) ih
  | case3 position latest notices hlag hge =>
    have hreceipts : receiptsFrom ch position = 1 := by
      unfold receiptsFrom
      rw [if_neg hlag]
      omega
    rw [hreceipts]
    exact .done (ch.receive_of_drained (Nat.not_lt.1 hlag) (Nat.not_lt.1 hge))

end Observer

/-! ## What happens at an observatory -/

/-- Somebody who came to listen. -/
inductive Guest where
  /-- It has left. -/
  | gone
  /-- It takes one event after the other. -/
  | listener (listener : Listener)
  /-- It remembers the newest one. -/
  | observer (observer : Observer)

namespace Guest

/-- The topic that the guest listens to. -/
def topic? : Guest → Option Topic
  | gone => none
  | listener l => some l.topic
  | observer o => some o.listener.topic

/-- The guest after a look at its topic; a plain listener takes one receipt only. -/
def look (bus : Bus) : Guest → Guest
  | gone => gone
  | listener l => listener (l.receive bus).2
  | observer o => observer (o.observe bus).1

/-- A look does not change the topic. -/
@[simp] theorem topic?_look (bus : Bus) (guest : Guest) : (guest.look bus).topic? = guest.topic? := by
  cases guest <;> rfl

end Guest

/-- A bus and everybody who came to listen, in the order of their coming. -/
structure Observatory where
  /-- The bus. -/
  bus : Bus
  /-- The guests. -/
  guests : List Guest := []

namespace Observatory

/-- One thing that happens at an observatory. -/
inductive Act where
  /-- An event is published on a topic. -/
  | publish (topic : Topic) (event : Event)
  /-- A new observer of a topic comes. -/
  | observe (topic : Topic)
  /-- A new listener of a topic comes. -/
  | listen (topic : Topic)
  /-- A guest looks at its topic. -/
  | look (place : Nat)
  /-- A guest leaves. -/
  | leave (place : Nat)
  /-- There is one more handle of the bus. -/
  | addHandle
  /-- There is one handle less. -/
  | dropHandle

namespace Act

/-- It brings a guest. -/
def bringsGuest : Act → Bool
  | observe _ | listen _ => true
  | _ => false

/-- It is a look of the guest at a place. -/
def isLookOf (place : Nat) : Act → Bool
  | look p => p == place
  | _ => false

/-- The event that it puts on a topic. -/
def eventOn? (topic : Topic) : Act → Option Event
  | publish t event => if t = topic then some event else none
  | _ => none

end Act

/-- The events that are published on a topic. -/
def published (topic : Topic) (acts : List Act) : List Event := acts.filterMap (Act.eventOn? topic)

/-- What has happened up to the last look of a guest; nothing if it has not looked. -/
def untilLook (place : Nat) (acts : List Act) : List Act :=
  acts.rdropWhile fun act => !act.isLookOf place

/-- The observatory after an act. -/
def act (o : Observatory) : Act → Observatory
  | .publish topic event => { o with bus := (o.bus.publish topic event).2 }
  | .observe topic =>
    let (observer, bus) := Observer.create o.bus topic
    { bus, guests := o.guests ++ [.observer observer] }
  | .listen topic =>
    let (listener, bus) := o.bus.subscribe topic
    { bus, guests := o.guests ++ [.listener listener] }
  | .look place =>
    match o.guests[place]? with
    | none => o
    | some guest => { o with guests := o.guests.set place (guest.look o.bus) }
  | .leave place =>
    match o.guests[place]?.bind Guest.topic? with
    | none => o
    | some topic => { bus := o.bus.unsubscribe topic, guests := o.guests.set place .gone }
  | .addHandle => { o with bus := o.bus.addHandle }
  | .dropHandle => { o with bus := o.bus.dropHandle }

/-- The observatory after some acts. -/
def run (o : Observatory) (acts : List Act) : Observatory := acts.foldl act o

/-- A guest that looks may be another one then; whoever is not there does not look. -/
theorem look_cases (o : Observatory) (place : Nat) :
    o.act (.look place) = o ∨ ∃ guest, o.guests[place]? = some guest ∧
      o.act (.look place) = { o with guests := o.guests.set place (guest.look o.bus) } := by
  cases hplace : o.guests[place]? with
  | none =>
    left
    rw [act, hplace]
  | some guest =>
    right
    refine ⟨guest, rfl, ?_⟩
    rw [act, hplace]

/-- A guest that leaves is not counted any more; whoever is not there does not leave. -/
theorem leave_cases (o : Observatory) (place : Nat) :
    o.act (.leave place) = o ∨ ∃ guest topic, o.guests[place]? = some guest ∧
      guest.topic? = some topic ∧
      o.act (.leave place) =
        { bus := o.bus.unsubscribe topic, guests := o.guests.set place .gone } := by
  cases htopic : o.guests[place]?.bind Guest.topic? with
  | none =>
    left
    rw [act, htopic]
  | some topic =>
    right
    obtain ⟨guest, hplace, hguest⟩ := Option.bind_eq_some_iff.1 htopic
    refine ⟨guest, topic, hplace, hguest, ?_⟩
    rw [act, htopic]

/-- How many listen to a topic. -/
def audience (o : Observatory) (topic : Topic) : Nat :=
  (o.guests.map Guest.topic?).count (some topic)

/-! ## The bus knows its guests -/

/-- Both topics have room for events, and the bus knows how many listen to them. -/
structure Sound (o : Observatory) : Prop where
  /-- There is room for events. -/
  capacity : ∀ topic, 0 < (o.bus.channel topic).capacity
  /-- Every guest that has not left is counted. -/
  listeners : ∀ topic, (o.bus.channel topic).listeners = o.audience topic

variable {o : Observatory}

/-- A new bus has no guests. -/
theorem sound_of_create {capacity : Nat} {bus : Bus} (h : Bus.create capacity = .ok bus) :
    Sound { bus } where
  capacity := Bus.capacity_pos_of_create h
  listeners := Bus.listeners_of_create h

/-- What neither brings nor takes guests of any topic. -/
theorem Sound.of_eq {o' : Observatory} (h : Sound o)
    (hcapacity : ∀ topic, (o'.bus.channel topic).capacity = (o.bus.channel topic).capacity)
    (hlisteners : ∀ topic, (o'.bus.channel topic).listeners = (o.bus.channel topic).listeners)
    (htopics : o'.guests.map Guest.topic? = o.guests.map Guest.topic?) : Sound o' where
  capacity topic := hcapacity topic ▸ h.capacity topic
  listeners topic := by
    rw [hlisteners, h.listeners, audience, audience, htopics]

/-- A new guest of a topic. -/
theorem Sound.welcome (h : Sound o) {topic : Topic} {guest : Guest}
    (hguest : guest.topic? = some topic) :
    Sound { bus := (o.bus.subscribe topic).2, guests := o.guests ++ [guest] } where
  capacity other := by
    rw [o.bus.channel_subscribe]
    split <;> exact h.capacity other
  listeners other := by
    have haudience : audience { bus := (o.bus.subscribe topic).2, guests := o.guests ++ [guest] }
        other = o.audience other + if topic = other then 1 else 0 := by
      unfold audience
      rw [List.map_append, List.count_append, List.map_singleton, List.count_singleton, hguest]
      cases topic <;> cases other <;> rfl
    rw [haudience, o.bus.channel_subscribe, ← h.listeners]
    split <;> rfl

/-- A guest less. -/
theorem Sound.dismiss (h : Sound o) {place : Nat} {guest : Guest} {topic : Topic}
    (hplace : o.guests[place]? = some guest) (hguest : guest.topic? = some topic) :
    Sound { bus := o.bus.unsubscribe topic, guests := o.guests.set place .gone } where
  capacity other := by
    rw [o.bus.channel_unsubscribe]
    split <;> exact h.capacity other
  listeners other := by
    obtain ⟨hlt, hget⟩ := List.getElem?_eq_some_iff.1 hplace
    have haudience : audience
        { bus := o.bus.unsubscribe topic, guests := o.guests.set place .gone } other =
          o.audience other - if topic = other then 1 else 0 := by
      unfold audience
      rw [List.map_set, List.count_set (by rwa [List.length_map]), List.getElem_map, hget, hguest]
      cases topic <;> cases other <;> rfl
    rw [haudience, o.bus.channel_unsubscribe, ← h.listeners]
    split <;> rfl

/-- Whatever happens, the bus knows its guests. -/
theorem Sound.act (h : Sound o) (a : Act) : Sound (o.act a) := by
  cases a with
  | publish topic event =>
    exact h.of_eq (fun other => o.bus.capacity_publish topic other event)
      (fun other => o.bus.listeners_publish topic other event) rfl
  | observe topic => exact h.welcome rfl
  | listen topic => exact h.welcome rfl
  | look place =>
    rcases o.look_cases place with heq | ⟨guest, hplace, heq⟩
    · rwa [heq]
    · rw [heq]
      refine h.of_eq (fun _ => rfl) (fun _ => rfl) ?_
      obtain ⟨hlt, rfl⟩ := List.getElem?_eq_some_iff.1 hplace
      dsimp only
      rw [List.map_set, Guest.topic?_look, ← List.map_set, List.set_getElem_self]
  | leave place =>
    rcases o.leave_cases place with heq | ⟨guest, topic, hplace, hguest, heq⟩
    · rwa [heq]
    · rw [heq]
      exact h.dismiss hplace hguest
  | addHandle =>
    have hchannel : ∀ topic, o.bus.addHandle.channel topic = o.bus.channel topic :=
      fun topic => by cases topic <;> rfl
    exact h.of_eq (fun topic => congrArg Channel.capacity (hchannel topic))
      (fun topic => congrArg Channel.listeners (hchannel topic)) rfl
  | dropHandle =>
    refine h.of_eq ?_ ?_ rfl
    · intro topic
      obtain ⟨isOpen, hchannel⟩ := o.bus.exists_channel_dropHandle topic
      exact (congrArg Channel.capacity hchannel :)
    · intro topic
      obtain ⟨isOpen, hchannel⟩ := o.bus.exists_channel_dropHandle topic
      exact (congrArg Channel.listeners hchannel :)

/-! ## What an observer knows -/

/-- An act that is not its own leaves a guest alone. -/
theorem getElem?_guests_act {place : Nat} (hplace : place < o.guests.length) {a : Act}
    (hlook : a ≠ .look place) (hleave : a ≠ .leave place) :
    (o.act a).guests[place]? = o.guests[place]? := by
  cases a with
  | publish topic event => rfl
  | observe topic => exact List.getElem?_append_left hplace
  | listen topic => exact List.getElem?_append_left hplace
  | look other =>
    have hne : other ≠ place := fun heq => hlook (by rw [heq])
    rcases o.look_cases other with heq | ⟨guest, -, heq⟩
    · rw [heq]
    · rw [heq]
      exact List.getElem?_set_ne hne
  | leave other =>
    have hne : other ≠ place := fun heq => hleave (by rw [heq])
    rcases o.leave_cases other with heq | ⟨guest, topic, -, -, heq⟩
    · rw [heq]
    · rw [heq]
      exact List.getElem?_set_ne hne
  | addHandle => rfl
  | dropHandle => rfl

/-- What an act does to the channel of a topic: an event that is published on the topic is sent if
somebody listens, and otherwise only the listeners, or that it is open, can change. -/
theorem exists_channel_act (o : Observatory) (topic : Topic) (a : Act) :
    ∃ listeners isOpen, (o.act a).bus.channel topic =
      { o.bus.channel topic with
        sent :=
          match a.eventOn? topic with
          | none => (o.bus.channel topic).sent
          | some event =>
            if 0 < (o.bus.channel topic).listeners then (o.bus.channel topic).sent.push event
            else (o.bus.channel topic).sent
        listeners
        isOpen } := by
  cases a with
  | publish other event =>
    change ∃ listeners isOpen, (o.bus.publish other event).2.channel topic = _
    refine ⟨(o.bus.channel topic).listeners, (o.bus.channel topic).isOpen, ?_⟩
    rw [o.bus.channel_publish, Act.eventOn?]
    by_cases hother : other = topic
    · subst hother
      by_cases hlisteners : 0 < (o.bus.channel other).listeners
      · rw [if_pos ⟨rfl, hlisteners⟩, if_pos rfl]
        dsimp only
        rw [if_pos hlisteners]
        rfl
      · rw [if_neg fun h => hlisteners h.2, if_pos rfl]
        dsimp only
        rw [if_neg hlisteners]
    · rw [if_neg fun h => hother h.1, if_neg hother]
  | observe other =>
    change ∃ listeners isOpen, (o.bus.subscribe other).2.channel topic = _
    rw [o.bus.channel_subscribe]
    split <;> exact ⟨_, _, rfl⟩
  | listen other =>
    change ∃ listeners isOpen, (o.bus.subscribe other).2.channel topic = _
    rw [o.bus.channel_subscribe]
    split <;> exact ⟨_, _, rfl⟩
  | look place =>
    rcases o.look_cases place with heq | ⟨guest, -, heq⟩
    · rw [heq]
      exact ⟨_, _, rfl⟩
    · rw [heq]
      exact ⟨_, _, rfl⟩
  | leave place =>
    rcases o.leave_cases place with heq | ⟨guest, left, -, -, heq⟩
    · rw [heq]
      exact ⟨_, _, rfl⟩
    · rw [heq, o.bus.channel_unsubscribe]
      split <;> exact ⟨_, _, rfl⟩
  | addHandle => cases topic <;> exact ⟨_, _, rfl⟩
  | dropHandle =>
    obtain ⟨isOpen, hchannel⟩ := o.bus.exists_channel_dropHandle topic
    exact ⟨_, isOpen, hchannel⟩

/-- The events of a topic are those that are published on it while somebody listens. -/
theorem sent_act (o : Observatory) (topic : Topic) (a : Act) :
    ((o.act a).bus.channel topic).sent =
      match a.eventOn? topic with
      | none => (o.bus.channel topic).sent
      | some event =>
        if 0 < (o.bus.channel topic).listeners then (o.bus.channel topic).sent.push event
        else (o.bus.channel topic).sent := by
  obtain ⟨listeners, isOpen, hchannel⟩ := o.exists_channel_act topic a
  exact (congrArg Channel.sent hchannel :)

/-- The room for events stays the same. -/
theorem capacity_act (o : Observatory) (topic : Topic) (a : Act) :
    ((o.act a).bus.channel topic).capacity = (o.bus.channel topic).capacity := by
  obtain ⟨listeners, isOpen, hchannel⟩ := o.exists_channel_act topic a
  exact (congrArg Channel.capacity hchannel :)

/-- One more act publishes its event. -/
theorem published_append_singleton (topic : Topic) (acts : List Act) (a : Act) :
    published topic (acts ++ [a]) = published topic acts ++ (a.eventOn? topic).toList := by
  unfold published
  rw [List.filterMap_append, List.filterMap_cons]
  cases a.eventOn? topic <;> rfl

/-- A look is the last one of its guest. -/
theorem untilLook_append_look (place : Nat) (acts : List Act) :
    untilLook place (acts ++ [.look place]) = acts ++ [.look place] :=
  List.rdropWhile_concat_neg _ _ _ (by simp [Act.isLookOf])

/-- Another act is none. -/
theorem untilLook_append_singleton {place : Nat} {a : Act} (h : a ≠ .look place)
    (acts : List Act) : untilLook place (acts ++ [a]) = untilLook place acts := by
  refine List.rdropWhile_concat_pos _ _ _ ?_
  cases a with
  | look other => simpa [Act.isLookOf] using h
  | _ => rfl

/-- The guest at a place is an observer that has followed its topic: it would find the last of the
events that were published since it came, and knows the last one before its last look. -/
def Follows (o : Observatory) (place : Nat) (topic : Topic) (since : List Act)
    (observer : Observer) : Prop :=
  o.guests[place]? = some (.observer observer) ∧ observer.listener.topic = topic ∧
    observer.Tracks (published topic since) o.bus ∧
    observer.latest = (published topic (untilLook place since)).getLast?

variable {place : Nat} {topic : Topic} {since : List Act} {observer : Observer}

/-- Somebody listens to the topic of a guest. -/
theorem Sound.listeners_pos (h : Sound o) {guest : Guest} (hplace : o.guests[place]? = some guest)
    (hguest : guest.topic? = some topic) : 0 < (o.bus.channel topic).listeners := by
  rw [h.listeners, audience, List.count_pos_iff, List.mem_map]
  exact ⟨guest, List.mem_of_getElem? hplace, hguest⟩

/-- Between its looks an observer follows what is published on its topic. -/
theorem Follows.idle (h : o.Follows place topic since observer) (hsound : Sound o) {a : Act}
    (hlook : a ≠ .look place) (hleave : a ≠ .leave place) :
    (o.act a).Follows place topic (since ++ [a]) observer := by
  obtain ⟨hplace, rfl, htracks, hlatest⟩ := h
  have hlisteners := hsound.listeners_pos hplace rfl
  have hlt := (List.getElem?_eq_some_iff.1 hplace).1
  refine ⟨(getElem?_guests_act hlt hlook hleave).trans hplace, rfl, ?_, ?_⟩
  · rw [published_append_singleton]
    have hsent := o.sent_act observer.listener.topic a
    cases hevent : a.eventOn? observer.listener.topic with
    | none =>
      rw [hevent] at hsent
      rw [Option.toList_none, List.append_nil]
      exact htracks.congr hsent
    | some event =>
      rw [hevent] at hsent
      dsimp only at hsent
      rw [if_pos hlisteners] at hsent
      refine (htracks.publish hlisteners event).congr ?_
      rw [hsent, Bus.channel_publish, if_pos ⟨rfl, hlisteners⟩]
      rfl
  · rw [untilLook_append_singleton hlook]
    exact hlatest

/-- After its look an observer knows the last event. -/
theorem Follows.look (h : o.Follows place topic since observer) (hsound : Sound o) :
    (o.act (.look place)).Follows place topic (since ++ [.look place])
      (observer.observe o.bus).1 := by
  obtain ⟨hplace, rfl, htracks, hlatest⟩ := h
  have hcapacity := hsound.capacity observer.listener.topic
  have hact : o.act (.look place) =
      { o with guests := o.guests.set place (.observer (observer.observe o.bus).1) } := by
    unfold act
    dsimp only
    rw [hplace]
    rfl
  have hpublished : published observer.listener.topic (since ++ [.look place]) =
      published observer.listener.topic since := by
    rw [published_append_singleton]
    exact List.append_nil _
  rw [hact]
  refine ⟨?_, rfl, ?_, ?_⟩
  · exact List.getElem?_set_self (List.getElem?_eq_some_iff.1 hplace).1
  · rw [hpublished]
    exact htracks.observe hcapacity
  · rw [untilLook_append_look, hpublished, Observer.latest_observe hcapacity, htracks.newest_eq]

/-- An observer follows its topic as long as it stays. -/
theorem Follows.run (h : o.Follows place topic since observer) (hsound : Sound o)
    {acts : List Act} (hstays : .leave place ∉ acts) :
    ∃ observer', (o.run acts).Follows place topic (since ++ acts) observer' := by
  induction acts generalizing o since observer with
  | nil =>
    rw [List.append_nil]
    exact ⟨observer, h⟩
  | cons a rest ih =>
    obtain ⟨hleave, hrest⟩ := List.ne_and_not_mem_of_not_mem_cons hstays
    have hnext : ∃ observer', (o.act a).Follows place topic (since ++ [a]) observer' := by
      by_cases hlook : a = .look place
      · subst hlook
        exact ⟨_, h.look hsound⟩
      · exact ⟨observer, h.idle hsound hlook hleave.symm⟩
    obtain ⟨observer', hfollows⟩ := hnext
    have hrun := ih hfollows (hsound.act a) hrest
    rwa [List.append_assoc] at hrun

/-- Whatever happens, the bus knows its guests all along. -/
theorem Sound.run (h : Sound o) (acts : List Act) : Sound (o.run acts) := by
  induction acts generalizing o with
  | nil => exact h
  | cons a rest ih => exact ih (h.act a)

/-- Some acts and then others. -/
theorem run_append (o : Observatory) (acts others : List Act) :
    o.run (acts ++ others) = (o.run acts).run others := List.foldl_append

/-- Every guest gets the next place. -/
theorem length_guests_run (o : Observatory) (acts : List Act) :
    (o.run acts).guests.length = o.guests.length + acts.countP Act.bringsGuest := by
  induction acts generalizing o with
  | nil => rfl
  | cons a rest ih =>
    have hlength : (o.act a).guests.length =
        o.guests.length + if a.bringsGuest = true then 1 else 0 := by
      cases a with
      | observe topic => exact List.length_append
      | listen topic => exact List.length_append
      | look place =>
        rcases o.look_cases place with heq | ⟨guest, -, heq⟩
        · rw [heq]
          rfl
        · rw [heq]
          exact List.length_set
      | leave place =>
        rcases o.leave_cases place with heq | ⟨guest, topic, -, -, heq⟩
        · rw [heq]
          rfl
        · rw [heq]
          exact List.length_set
      | _ => rfl
    change ((o.act a).run rest).guests.length = _
    rw [ih, hlength, List.countP_cons]
    omega

/-- A new observer follows its topic from now on. -/
theorem follows_observe (o : Observatory) (topic : Topic) :
    (o.act (.observe topic)).Follows o.guests.length topic [] (Observer.create o.bus topic).1 :=
  ⟨List.getElem?_concat_length, rfl, Observer.tracks_create o.bus topic, rfl⟩

/-- **An observer knows the last event that was published on its topic between its coming and its
last look**, and none if there was none. Only a look of its own changes that, and after a look that
takes a few receipts it knows the last event of all. -/
theorem observer_isFresh {capacity : Nat} {bus : Bus} (hbus : Bus.create capacity = .ok bus)
    (before since : List Act) (topic : Topic)
    (hstays : .leave (before.countP Act.bringsGuest) ∉ since) :
    let place := before.countP Act.bringsGuest
    let o := run { bus } (before ++ .observe topic :: since)
    ∃ observer, o.guests[place]? = some (.observer observer) ∧
      observer.listener.topic = topic ∧
      observer.latest = (published topic (untilLook place since)).getLast? ∧
      (∀ a, a ≠ .look place → a ≠ .leave place →
        (o.act a).guests[place]? = some (.observer observer)) ∧
      ∃ looked, (o.act (.look place)).guests[place]? = some (.observer looked) ∧
        looked.latest = (published topic since).getLast? ∧
        ∃ receipts notices, receipts ≤ (o.bus.channel topic).capacity + 2 ∧
          Observer.Drains (o.bus.channel topic) receipts observer.listener.position
            observer.latest [] (looked.latest, looked.listener.position, notices) := by
  intro place o
  have hsound := (sound_of_create hbus).run before
  have hlength : (run { bus } before).guests.length = place :=
    (length_guests_run { bus } before).trans (Nat.zero_add _)
  have hstart := follows_observe (run { bus } before) topic
  rw [hlength] at hstart
  obtain ⟨observer, hfollows⟩ := hstart.run (hsound.act _) hstays
  have ho : ((run { bus } before).act (.observe topic)).run since = o :=
    (run_append { bus } before (.observe topic :: since)).symm
  have hsound' := (hsound.act (.observe topic)).run since
  rw [ho] at hfollows hsound'
  have hlooked := hfollows.look hsound'
  obtain ⟨hplace, htopic, -, hlatest⟩ := hfollows
  have hlt := (List.getElem?_eq_some_iff.1 hplace).1
  refine ⟨observer, hplace, htopic, hlatest, ?_, (observer.observe o.bus).1, hlooked.1, ?_, ?_⟩
  · intro a hlook hleave
    exact (getElem?_guests_act hlt hlook hleave).trans hplace
  · rw [hlooked.2.2.2, untilLook_append_look, published_append_singleton]
    exact congrArg List.getLast? (List.append_nil _)
  · have hdrains := Observer.drains_drain (o.bus.channel topic) observer.listener.position
      observer.latest []
    rw [← htopic] at hdrains ⊢
    exact ⟨_, _, Observer.receiptsFrom_le _ _, hdrains⟩

/-- Events that can be told apart. -/
def numbered (n : Nat) : Event := ⟨⟨.ofNat 128 n, ⟨n, 0⟩⟩, "sensor", .verdict ⟨0, false⟩⟩

/-- On a bus with room for two events the second guest misses one of three, while others come and
look, and a cloud is published; then the last handle is dropped, and it still finds the third. -/
theorem observer_isFresh_lossy :
    ∃ bus, Bus.create 2 = .ok bus ∧
      Act.leave 1 ∉ [.publish .collisionWarning (numbered 1), .observe .collisionWarning,
        .publish .collisionWarning (numbered 2), .publish .pointCloud (numbered 3), .look 2,
        .publish .collisionWarning (numbered 4), .leave 0, .dropHandle] ∧
      ∃ looked, ((run { bus } [.listen .pointCloud, .observe .collisionWarning,
          .publish .collisionWarning (numbered 1), .observe .collisionWarning,
          .publish .collisionWarning (numbered 2), .publish .pointCloud (numbered 3), .look 2,
          .publish .collisionWarning (numbered 4), .leave 0, .dropHandle]).act
            (.look 1)).guests[1]? = some (.observer looked) ∧
        looked.latest = some (numbered 4) := by
  have hbus : Bus.create 2 = .ok
      { clouds := { capacity := 2 }, verdicts := { capacity := 2 } } := by cbv
  obtain ⟨-, -, -, -, -, looked, hlooked, hlatest, -⟩ := observer_isFresh hbus
    [.listen .pointCloud] [.publish .collisionWarning (numbered 1), .observe .collisionWarning,
      .publish .collisionWarning (numbered 2), .publish .pointCloud (numbered 3), .look 2,
      .publish .collisionWarning (numbered 4), .leave 0, .dropHandle] .collisionWarning
    (by simp [Act.bringsGuest])
  exact ⟨_, hbus, by simp, looked, hlooked, hlatest⟩

end Observatory

end CollisionWatch
