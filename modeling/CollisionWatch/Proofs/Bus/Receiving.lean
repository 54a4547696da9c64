import CollisionWatch.Proofs.Bus.Observatory
import CollisionWatch.Proofs.Bus.Waiting

/-!
# What a listener receives among others

A listener at an observatory takes one receipt with each of its looks. Its backlog is what would
still come if no more were published. As long as the backlog leaves room in the channel whenever an
event is published, the listener is never told of a lag, and what it has received together with its
backlog is what was published on its topic since it came (`Observatory.Attends.run`). So after
enough looks it has received just that, one event after the other (`Observatory.Attends.receives`).
-/

namespace CollisionWatch

/-- The event that a receipt brings. -/
def Receipt.event? {ε : Type} : Receipt ε → Option ε
  | event e => some e
  | _ => none

/-- The receipt brings the news of a lag. -/
def Receipt.isLag {ε : Type} : Receipt ε → Bool
  | lagged _ => true
  | _ => false

namespace Observatory

/-- What the listener at a place would receive if no more were published. -/
def backlog (o : Observatory) (place : Nat) : List Event :=
  match o.guests[place]? with
  | some (.listener l) => l.waiting o.bus
  | _ => []

/-- What an act brings to the listener at a place: a receipt, if it is a look of its own. -/
def receipt? (o : Observatory) (place : Nat) : Act → Option (Receipt Event)
  | .look p =>
    match o.guests[p]? with
    | some (.listener l) => if p = place then some (l.receive o.bus).1 else none
    | _ => none
  | _ => none

/-- What some acts bring to the listener at a place. -/
def receipts (o : Observatory) (place : Nat) : List Act → List (Receipt Event)
  | [] => []
  | a :: rest => (o.receipt? place a).toList ++ (o.act a).receipts place rest

/-- Whenever one of these acts publishes an event on the topic, the channel has room for it beside
the backlog of the listener at a place. -/
def HasRoom (o : Observatory) (place : Nat) (topic : Topic) (acts : List Act) : Prop :=
  ∀ before event after, acts = before ++ .publish topic event :: after →
    ((o.run before).backlog place).length < ((o.run before).bus.channel topic).capacity

variable {o : Observatory} {place : Nat} {topic : Topic} {acts : List Act}

/-! ## What is published and sent -/

/-- The event of the first act is published first. -/
theorem published_cons (topic : Topic) (a : Act) (rest : List Act) :
    published topic (a :: rest) = (a.eventOn? topic).toList ++ published topic rest := by
  unfold published
  rw [List.filterMap_cons]
  cases a.eventOn? topic <;> rfl

/-- Acts one after the other publish their events one after the other. -/
theorem published_append (topic : Topic) (acts others : List Act) :
    published topic (acts ++ others) = published topic acts ++ published topic others :=
  List.filterMap_append

/-- Where an event is published among other acts something is published. -/
theorem published_publish_ne_nil (topic : Topic) (event : Event) (before after : List Act) :
    published topic (before ++ .publish topic event :: after) ≠ [] := by
  rw [published_append, published_cons, Act.eventOn?, if_pos rfl]
  simp

/-- Who looks publishes nothing. -/
theorem published_looks (topic : Topic) (m place : Nat) :
    published topic (List.replicate m (.look place)) = [] :=
  List.filterMap_replicate_of_none rfl

/-- Where nothing is published the events of the topic stay as they are. -/
theorem sent_run_of_quiet (hquiet : published topic acts = []) :
    ((o.run acts).bus.channel topic).sent = (o.bus.channel topic).sent := by
  induction acts generalizing o with
  | nil => rfl
  | cons a rest ih =>
    rw [published_cons, List.append_eq_nil_iff] at hquiet
    have hsent := o.sent_act topic a
    rw [Option.toList_eq_nil_iff.1 hquiet.1] at hsent
    exact (ih hquiet.2).trans hsent

/-- What was sent stays sent. -/
theorem sent_prefix_run (o : Observatory) (topic : Topic) (acts : List Act) :
    (o.bus.channel topic).sent.toList <+: ((o.run acts).bus.channel topic).sent.toList := by
  induction acts generalizing o with
  | nil => exact List.prefix_rfl
  | cons a rest ih =>
    refine List.IsPrefix.trans ?_ (ih (o.act a))
    rw [o.sent_act topic a]
    split
    · exact List.prefix_rfl
    · split
      · rw [Array.toList_push]
        exact List.prefix_append _ _
      · exact List.prefix_rfl

/-! ## Room -/

/-- Nothing needs no room. -/
theorem HasRoom.nil : o.HasRoom place topic [] := by
  rintro (- | ⟨_, _⟩) event after ⟨⟩

/-- Room for some acts is room for those behind the first one. -/
theorem HasRoom.tail {a : Act} (h : o.HasRoom place topic (a :: acts)) :
    (o.act a).HasRoom place topic acts := fun before event after heq =>
  h (a :: before) event after (congrArg (a :: ·) heq)

/-- One act more needs room for its own event only. -/
theorem HasRoom.cons {a : Act}
    (hroom : ∀ event, a = .publish topic event →
      (o.backlog place).length < (o.bus.channel topic).capacity)
    (h : (o.act a).HasRoom place topic acts) : o.HasRoom place topic (a :: acts) := by
  intro before event after heq
  cases before with
  | nil => exact hroom event (List.cons.inj heq).1
  | cons b before =>
    obtain ⟨rfl, hrest⟩ := List.cons.inj heq
    exact h before event after hrest

/-- What publishes nothing needs no room. -/
theorem HasRoom.append (h : o.HasRoom place topic acts) {quiet : List Act}
    (hquiet : published topic quiet = []) : o.HasRoom place topic (acts ++ quiet) := by
  intro before event after heq
  rcases List.append_eq_append_iff.1 heq with ⟨more, -, rfl⟩ | ⟨more, rfl, hmore⟩
  · exact absurd hquiet (published_publish_ne_nil topic event more after)
  · cases more with
    | nil =>
      obtain rfl : .publish topic event :: after = quiet := hmore
      exact absurd hquiet (published_publish_ne_nil topic event [] after)
    | cons a more =>
      obtain ⟨rfl, -⟩ := List.cons.inj hmore
      exact h before event more rfl

/-! ## A listener that keeps up -/

/-- A listener of the topic is at the place, and its next event is still kept. -/
structure Attends (o : Observatory) (place : Nat) (topic : Topic) (listener : Listener) : Prop where
  /-- It is there. -/
  present : o.guests[place]? = some (.listener listener)
  /-- It listens to the topic. -/
  topic_eq : listener.topic = topic
  /-- It does not lag. -/
  kept : (o.bus.channel topic).oldest ≤ listener.position
  /-- It is not ahead. -/
  position_le : listener.position ≤ (o.bus.channel topic).sent.size

variable {listener : Listener}

/-- The backlog of a listener that keeps up is what is sent from its position on. -/
theorem Attends.backlog_eq (h : o.Attends place topic listener) :
    o.backlog place = (o.bus.channel topic).sent.toList.drop listener.position := by
  obtain ⟨hpresent, rfl, hkept, -⟩ := h
  rw [backlog, hpresent]
  dsimp only
  rw [Listener.waiting, Nat.max_eq_left hkept]

/-- A new listener has no backlog. -/
theorem attends_listen (o : Observatory) (topic : Topic) :
    ∃ listener, (o.act (.listen topic)).Attends o.guests.length topic listener ∧
      (o.act (.listen topic)).backlog o.guests.length = [] := by
  have hsent : ((o.act (.listen topic)).bus.channel topic).sent = (o.bus.channel topic).sent :=
    o.sent_act topic (.listen topic)
  have hattends : (o.act (.listen topic)).Attends o.guests.length topic
      ⟨topic, (o.bus.channel topic).sent.size⟩ :=
    { present := by
        rw [← o.bus.listener_subscribe topic]
        exact List.getElem?_concat_length
      topic_eq := rfl
      kept := by
        rw [Channel.oldest, hsent]
        exact Nat.sub_le _ _
      position_le := by rw [hsent] }
  refine ⟨_, hattends, ?_⟩
  rw [hattends.backlog_eq, hsent]
  exact List.drop_eq_nil_of_le (Nat.le_refl _)

/-- A look takes the first event of the backlog, if there is one. -/
theorem Attends.look (h : o.Attends place topic listener) :
    (∃ next, (o.act (.look place)).Attends place topic next) ∧
      (o.act (.look place)).backlog place = (o.backlog place).tail ∧
      (o.receipt? place (.look place)).toList.filterMap Receipt.event? =
        (o.backlog place).head?.toList ∧
      ∀ r ∈ o.receipt? place (.look place), r.isLag = false := by
  have hbacklog := h.backlog_eq
  obtain ⟨hpresent, rfl, hkept, hle⟩ := h
  have hact : o.act (.look place) =
      { o with guests := o.guests.set place (.listener (listener.receive o.bus).2) } := by
    unfold act
    dsimp only
    rw [hpresent]
    rfl
  have hreceipt : o.receipt? place (.look place) = some (listener.receive o.bus).1 := by
    unfold receipt?
    dsimp only
    rw [hpresent]
    exact if_pos rfl
  have hnext : (o.act (.look place)).guests[place]? =
      some (.listener (listener.receive o.bus).2) := by
    rw [hact]
    exact List.getElem?_set_self (List.getElem?_eq_some_iff.1 hpresent).1
  have hbus : (o.act (.look place)).bus = o.bus := by rw [hact]
  rw [hbacklog, hreceipt]
  unfold Listener.receive at hnext ⊢
  by_cases hlt : listener.position < (o.bus.channel listener.topic).sent.size
  · rw [Channel.receive_of_kept _ hkept hlt] at hnext ⊢
    have hattends : (o.act (.look place)).Attends place listener.topic
        { listener with position := listener.position + 1 } :=
      ⟨hnext, rfl, by rw [hbus]; exact Nat.le_succ_of_le hkept, by rw [hbus]; exact hlt⟩
    refine ⟨⟨_, hattends⟩, ?_, ?_, ?_⟩
    · rw [hattends.backlog_eq, hbus, List.tail_drop]
    · rw [List.drop_eq_getElem_cons hlt]
      rfl
    · rintro r ⟨⟩
      rfl
  · have hnone : (o.bus.channel listener.topic).sent.toList.drop listener.position = [] :=
      List.drop_eq_nil_of_le (Nat.not_lt.1 hlt)
    rw [Channel.receive_of_drained _ hkept (Nat.not_lt.1 hlt)] at hnext ⊢
    have hattends : (o.act (.look place)).Attends place listener.topic listener :=
      ⟨hnext, rfl, by rw [hbus]; exact hkept, by rw [hbus]; exact hle⟩
    refine ⟨⟨_, hattends⟩, ?_, ?_, ?_⟩
    · rw [hattends.backlog_eq, hbus, hnone, List.tail_nil]
    · rw [hnone]
      cases (o.bus.channel listener.topic).isOpen <;> rfl
    · rintro r ⟨⟩
      cases (o.bus.channel listener.topic).isOpen <;> rfl

/-- What others do brings a listener nothing but the events that they publish on its topic, and
those wait behind the others. -/
theorem Attends.idle (h : o.Attends place topic listener) (hsound : Sound o) {a : Act}
    (hlook : a ≠ .look place) (hleave : a ≠ .leave place)
    (hroom : ∀ event, a = .publish topic event →
      (o.backlog place).length < (o.bus.channel topic).capacity) :
    (o.act a).Attends place topic listener ∧
      (o.act a).backlog place = o.backlog place ++ (a.eventOn? topic).toList ∧
      o.receipt? place a = none := by
  have hbacklog := h.backlog_eq
  obtain ⟨hpresent, htopic, hkept, hle⟩ := h
  have hlisteners : 0 < (o.bus.channel topic).listeners :=
    hsound.listeners_pos hpresent (congrArg some htopic)
  have hpresent' : (o.act a).guests[place]? = some (.listener listener) :=
    (getElem?_guests_act (List.getElem?_eq_some_iff.1 hpresent).1 hlook hleave).trans hpresent
  have hreceipt : o.receipt? place a = none := by
    cases a with
    | look other =>
      have hne : other ≠ place := fun heq => hlook (by rw [heq])
      unfold receipt?
      dsimp only
      split
      · exact if_neg hne
      · rfl
    | _ => rfl
  have hcapacity := o.capacity_act topic a
  have hsent := o.sent_act topic a
  cases hevent : a.eventOn? topic with
  | none =>
    rw [hevent] at hsent
    have hattends : (o.act a).Attends place topic listener :=
      ⟨hpresent', htopic, by rwa [Channel.oldest, hsent, hcapacity], by rwa [hsent]⟩
    refine ⟨hattends, ?_, hreceipt⟩
    rw [hattends.backlog_eq, hsent, hbacklog, Option.toList_none, List.append_nil]
  | some event =>
    rw [hevent] at hsent
    dsimp only at hsent
    rw [if_pos hlisteners] at hsent
    obtain rfl : a = .publish topic event := by
      cases a with
      | publish other e =>
        obtain ⟨rfl, heq⟩ := Option.ite_none_right_eq_some.1 hevent
        rw [Option.some.inj heq]
      | _ => cases hevent
    -- The channel had room for the event, so nothing that waited is lost.
    have hlength := hroom event rfl
    rw [hbacklog, List.length_drop, Array.length_toList] at hlength
    have hattends : (o.act (.publish topic event)).Attends place topic listener :=
      { present := hpresent'
        topic_eq := htopic
        kept := by
          rw [Channel.oldest, hsent, hcapacity, Array.size_push]
          omega
        position_le := by
          rw [hsent, Array.size_push]
          exact Nat.le_succ_of_le hle }
    refine ⟨hattends, ?_, hreceipt⟩
    rw [hattends.backlog_eq, hsent, hbacklog, Array.toList_push,
      List.drop_append_of_le_length hle]
    rfl

/-! ## Runs -/

/-- Whatever is done, a listener keeps up if it stays and has room, and between them its receipts
and its backlog hold one event after the other. -/
theorem Attends.act (h : o.Attends place topic listener) (hsound : Sound o) {a : Act}
    (hleave : a ≠ .leave place)
    (hroom : ∀ event, a = .publish topic event →
      (o.backlog place).length < (o.bus.channel topic).capacity) :
    (∃ next, (o.act a).Attends place topic next) ∧
      (o.receipt? place a).toList.filterMap Receipt.event? ++ (o.act a).backlog place =
        o.backlog place ++ (a.eventOn? topic).toList ∧
      ∀ r ∈ o.receipt? place a, r.isLag = false := by
  by_cases hlook : a = .look place
  · subst hlook
    obtain ⟨hnext, hbacklog, hevents, hlag⟩ := h.look
    refine ⟨hnext, ?_, hlag⟩
    rw [hevents, hbacklog]
    cases o.backlog place with
    | nil => rfl
    | cons first rest => exact (List.append_nil _).symm
  · obtain ⟨hnext, hbacklog, hnone⟩ := h.idle hsound hlook hleave hroom
    refine ⟨⟨_, hnext⟩, ?_, ?_⟩
    · rw [hnone, hbacklog]
      rfl
    · rw [hnone]
      rintro r ⟨⟩

/-- There is room if the channel holds as many events as will be published, beside the backlog. -/
theorem Attends.hasRoom_of_le (h : o.Attends place topic listener) (hsound : Sound o)
    (hstays : .leave place ∉ acts)
    (hle : (o.backlog place ++ published topic acts).length ≤ (o.bus.channel topic).capacity) :
    o.HasRoom place topic acts := by
  induction acts generalizing o listener with
  | nil => exact .nil
  | cons a rest ih =>
    obtain ⟨hleave, hrest⟩ := List.ne_and_not_mem_of_not_mem_cons hstays
    rw [published_cons, List.length_append, List.length_append] at hle
    have hroom : ∀ event, a = .publish topic event →
        (o.backlog place).length < (o.bus.channel topic).capacity := by
      rintro event rfl
      rw [Act.eventOn?, if_pos rfl, Option.toList_some, List.length_singleton] at hle
      omega
    obtain ⟨⟨next, hnext⟩, hstep, -⟩ := h.act hsound hleave.symm hroom
    have hlength := congrArg List.length hstep
    rw [List.length_append, List.length_append] at hlength
    refine .cons hroom (ih hnext (hsound.act a) hrest ?_)
    rw [o.capacity_act, List.length_append]
    omega

/-- **Receipts and backlog together are what was published**, through every run in which the
listener stays and has room. -/
theorem Attends.run (h : o.Attends place topic listener) (hsound : Sound o)
    (hstays : .leave place ∉ acts) (hroom : o.HasRoom place topic acts) :
    (∃ last, (o.run acts).Attends place topic last) ∧
      (o.receipts place acts).filterMap Receipt.event? ++ (o.run acts).backlog place =
        o.backlog place ++ published topic acts ∧
      ∀ r ∈ o.receipts place acts, r.isLag = false := by
  induction acts generalizing o listener with
  | nil => exact ⟨⟨_, h⟩, (List.append_nil _).symm, fun _ hr => absurd hr List.not_mem_nil⟩
  | cons a rest ih =>
    obtain ⟨hleave, hrest⟩ := List.ne_and_not_mem_of_not_mem_cons hstays
    obtain ⟨⟨next, hnext⟩, hstep, hlag⟩ :=
      h.act hsound hleave.symm fun event heq => hroom [] event rest (by rw [heq]; rfl)
    obtain ⟨hlast, hrun, hlags⟩ := ih hnext (hsound.act a) hrest hroom.tail
    refine ⟨hlast, ?_, ?_⟩
    · change ((o.receipt? place a).toList ++ (o.act a).receipts place rest).filterMap
        Receipt.event? ++ ((o.act a).run rest).backlog place = _
      rw [List.filterMap_append, List.append_assoc, hrun, ← List.append_assoc, hstep,
        List.append_assoc, ← published_cons]
    · intro r hr
      rcases List.mem_append.1 hr with hr | hr
      · exact hlag r (Option.mem_toList.1 hr)
      · exact hlags r hr

/-- Each look makes the backlog shorter. -/
theorem Attends.backlog_looks (h : o.Attends place topic listener) (m : Nat) :
    (o.run (List.replicate m (.look place))).backlog place = (o.backlog place).drop m := by
  induction m generalizing o listener with
  | zero => rfl
  | succ m ih =>
    obtain ⟨⟨next, hnext⟩, hbacklog, -⟩ := h.look
    rw [List.replicate_succ]
    change ((o.act (.look place)).run _).backlog place = _
    rw [ih hnext, hbacklog, List.drop_tail]

/-- **After enough looks a listener has received all that was published**, in order and without a
lag. -/
theorem Attends.receives (h : o.Attends place topic listener) (hsound : Sound o)
    (hstays : .leave place ∉ acts) (hroom : o.HasRoom place topic acts) {m : Nat}
    (hm : (o.backlog place ++ published topic acts).length ≤ m) :
    (o.receipts place (acts ++ List.replicate m (.look place))).filterMap Receipt.event? =
        o.backlog place ++ published topic acts ∧
      ∀ r ∈ o.receipts place (acts ++ List.replicate m (.look place)), r.isLag = false := by
  have hlooks := published_looks topic m place
  have hstays' : .leave place ∉ acts ++ List.replicate m (.look place) := fun hmem =>
    (List.mem_append.1 hmem).elim hstays fun hlook => by cases List.eq_of_mem_replicate hlook
  obtain ⟨⟨last, hlast⟩, hrun, -⟩ := h.run hsound hstays hroom
  obtain ⟨-, hall, hlags⟩ := h.run hsound hstays' (hroom.append hlooks)
  -- No more waits at the end of the acts than the backlog that the looks take away.
  have hnone : (o.run (acts ++ List.replicate m (.look place))).backlog place = [] := by
    rw [run_append, hlast.backlog_looks]
    refine List.drop_eq_nil_of_le (Nat.le_trans ?_ hm)
    rw [← hrun, List.length_append]
    exact Nat.le_add_left _ _
  rw [hnone, List.append_nil, published_append, hlooks, List.append_nil] at hall
  exact ⟨hall, hlags⟩

end Observatory

end CollisionWatch
