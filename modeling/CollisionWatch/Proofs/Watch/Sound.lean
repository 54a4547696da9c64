import CollisionWatch.Proofs.Watch.Deeds
import CollisionWatch.Proofs.Watch.Informed
import Mathlib.Data.List.InsertIdx
import Mathlib.Data.List.Perm.Basic

/-!
# A watch that keeps going

Whatever is done with a watch, it goes on (`Watch.Sound.act`): the sentinel follows the marks that
the deeds leave, the answers say which clouds got a verdict, the bus knows how many listen to the
verdicts, the board stays readable, and the monitor, once it is there, stays informed. The only way
to break a watch would be to report more lost clouds than a word can count.
-/

namespace CollisionWatch

open Double (IsNumber)

namespace Watch

/-- The watch is what the deeds have made of it; the monitor came before the later ones, or is not
there. -/
structure Sound (s₀ : Sentinel) (before since : List Deed) (w : Watch) : Prop where
  /-- The sentinel has followed the marks. -/
  follows : s₀.Follows (marksOf s₀ (before ++ since)) w.sentinel
  /-- The sentinel has counted the lost clouds. -/
  lost : w.sentinel.stats.lost.toNat = lostTotal (before ++ since)
  /-- The clouds that could be placed got a verdict, and no other ones. -/
  answers : w.answers.map Except.isOk = decidedOf s₀ (before ++ since)
  /-- There is room for verdicts. -/
  capacity : 0 < w.bus.verdicts.capacity
  /-- The monitor and some of the others listen to the verdicts. -/
  listeners : w.bus.verdicts.listeners = w.monitor.toList.length + w.audience
  /-- The monitor knows which verdict is in force. -/
  informed : ∀ m ∈ w.monitor, Informed s₀.streak.threshold.toNat (marksOf s₀ before)
    (marksOf s₀ since) w.bus m
  /-- The board can be read and written. -/
  poisoned : w.board.poisoned = false
  /-- The monitor has a component to report on. -/
  component : w.board.status.components.contains BrakeMonitor.component = true

variable {s₀ : Sentinel} {w : Watch} {before since : List Deed}

/-! ## The others -/

/-- One more of the others. -/
theorem count_append_listener (others : List Listener) (listener : Listener) :
    ((others ++ [listener]).map (·.topic)).count .collisionWarning =
      (others.map (·.topic)).count .collisionWarning +
        if listener.topic = .collisionWarning then 1 else 0 := by
  rw [List.map_append, List.count_append, List.map_singleton, List.count_singleton]
  cases listener.topic <;> rfl

/-- Reading keeps the topic. -/
theorem map_topic_set {others : List Listener} {place : Nat} {listener : Listener}
    (h : others[place]? = some listener) (position : Nat) :
    (others.set place { listener with position }).map (·.topic) = others.map (·.topic) := by
  obtain ⟨hlt, hget⟩ := List.getElem?_eq_some_iff.1 h
  have hlt' : place < (others.map (·.topic)).length := by rwa [List.length_map]
  have htopic : (others.map (·.topic))[place] = listener.topic := by rw [List.getElem_map, hget]
  rw [List.map_set]
  dsimp only
  rw [← htopic, List.set_getElem_self]

/-- One of the others less. -/
theorem count_eraseIdx_listener {others : List Listener} {place : Nat} {listener : Listener}
    (h : others[place]? = some listener) :
    (others.map (·.topic)).count .collisionWarning =
      ((others.eraseIdx place).map (·.topic)).count .collisionWarning +
        if listener.topic = .collisionWarning then 1 else 0 := by
  obtain ⟨hlt, rfl⟩ := List.getElem?_eq_some_iff.1 h
  have hperm := (List.getElem_cons_eraseIdx_perm hlt).map (·.topic)
  rw [← hperm.count_eq, List.map_cons, List.count_cons]
  cases others[place].topic <;> rfl

/-! ## The deeds -/

/-- A deed that leaves no mark and reports no loss, and does not touch the sentinel. -/
theorem Sound.of_unmarked {deed : Deed} {w' : Watch} (h : Sound s₀ before since w)
    (hdeed : deed.mark? s₀ = none ∧ deed.cloud? = none ∧ deed.lost = 0)
    (hsentinel : w'.sentinel = w.sentinel) (hanswers : w'.answers = w.answers)
    (hcapacity : w'.bus.verdicts.capacity = w.bus.verdicts.capacity)
    (hlisteners : w'.bus.verdicts.listeners = w'.monitor.toList.length + w'.audience)
    (hinformed : ∀ m ∈ w'.monitor, Informed s₀.streak.threshold.toNat (marksOf s₀ before)
      (marksOf s₀ since) w'.bus m)
    (hpoisoned : w'.board.poisoned = false)
    (hcomponent : w'.board.status.components.contains BrakeMonitor.component = true) :
    Sound s₀ before (since ++ [deed]) w' := by
  obtain ⟨hmark, hcloud, hlost⟩ := hdeed
  have hmarks : ∀ deeds, marksOf s₀ (deeds ++ [deed]) = marksOf s₀ deeds := by
    intro deeds
    rw [marksOf_append_singleton, hmark, Option.toList_none, List.append_nil]
  refine ⟨?_, ?_, ?_, hcapacity ▸ h.capacity, hlisteners, ?_, hpoisoned, hcomponent⟩
  · rw [← List.append_assoc, hmarks, hsentinel]
    exact h.follows
  · rw [← List.append_assoc, lostTotal_append_singleton, hlost, hsentinel]
    exact h.lost
  · rw [← List.append_assoc, decidedOf_append_singleton, hcloud, hanswers]
    simpa using h.answers
  · rw [hmarks]
    exact hinformed

/-- A deed that comes to nothing. -/
theorem Sound.stay {deed : Deed} (h : Sound s₀ before since w)
    (hdeed : deed.mark? s₀ = none ∧ deed.cloud? = none ∧ deed.lost = 0) :
    Sound s₀ before (since ++ [deed]) w :=
  h.of_unmarked hdeed rfl rfl rfl h.listeners h.informed h.poisoned h.component

/-- What judging a cloud makes of a watch, by the mark of the cloud. -/
theorem Sound.judge_cases (h : Sound s₀ before since w) (htree : s₀.tree.Built IsNumber)
    (cloud : Cloud) (stamp : Stamp) :
    (s₀.markOf cloud = .unplaced ∧ ∃ fault notice, w.act (.judge cloud stamp) =
      .ok { w with
        sentinel := (w.sentinel.giveUp fault w.bus notice).sentinel
        answers := w.answers ++ [.error fault] }) ∨
    ∃ risky, s₀.markOf cloud = .ofDecision risky ∧ w.act (.judge cloud stamp) =
      .ok { w with
        sentinel := ((w.sentinel.decide risky).announce w.bus stamp).sentinel
        bus := (w.bus.publish .collisionWarning ⟨stamp, Sentinel.source,
          .verdict ((w.sentinel.decide risky).verdict stamp)⟩).2
        answers := w.answers ++ [.ok ((w.sentinel.decide risky).verdict stamp)] } := by
  rw [← h.follows.markOf_eq]
  rcases Sentinel.process_cases (h.follows.tree ▸ htree) cloud w.bus stamp with
    ⟨hmark, fault, notice, hprocess⟩ | ⟨risky, hmark, hprocess⟩
  · refine .inl ⟨hmark, fault, notice, ?_⟩
    rw [act, hprocess]
    rfl
  · refine .inr ⟨risky, hmark, ?_⟩
    rw [act, hprocess, ← Sentinel.bus_announce, ← Sentinel.result_announce]
    rfl

/-- A cloud that is judged leaves its mark. -/
theorem marksOf_judge (deeds : List Deed) (cloud : Cloud) (stamp : Stamp) :
    marksOf s₀ (deeds ++ [.judge cloud stamp]) = marksOf s₀ deeds ++ [s₀.markOf cloud] :=
  marksOf_append_singleton s₀ deeds _

/-- A cloud can be judged whatever has happened. -/
theorem Sound.judge (h : Sound s₀ before since w) (htree : s₀.tree.Built IsNumber)
    (hn : 0 < s₀.streak.threshold.toNat) (cloud : Cloud) (stamp : Stamp) :
    ∃ w', w.act (.judge cloud stamp) = .ok w' ∧
      Sound s₀ before (since ++ [.judge cloud stamp]) w' ∧
      w'.monitor.isSome = w.monitor.isSome := by
  rcases h.judge_cases htree cloud stamp with
    ⟨hmark, fault, notice, hact⟩ | ⟨risky, hmark, hact⟩
  · refine ⟨_, hact, ⟨?_, ?_, ?_, h.capacity, h.listeners, ?_, h.poisoned, h.component⟩, rfl⟩
    · rw [← List.append_assoc, marksOf_judge, hmark]
      exact (h.follows.idle (.inl rfl)).withStats _
    · rw [← List.append_assoc, lostTotal_append_singleton]
      exact h.lost
    · rw [← List.append_assoc, decidedOf_append_singleton, List.map_append, h.answers]
      simp [Deed.cloud?, hmark, Except.isOk, Except.toBool]
    · rw [marksOf_judge, hmark]
      exact fun m hm => (h.informed m hm).idle (by decide)
  · have hdecide := h.follows.decide risky
    have hfollows := hdecide.announce w.bus stamp
    refine ⟨_, hact, ⟨?_, ?_, ?_, ?_, ?_, ?_, h.poisoned, h.component⟩, rfl⟩
    · rw [← List.append_assoc, marksOf_judge, hmark]
      exact hfollows
    · rw [← List.append_assoc, lostTotal_append_singleton, Sentinel.lost_announce]
      exact h.lost
    · rw [← List.append_assoc, decidedOf_append_singleton, List.map_append, h.answers]
      cases risky <;> simp [Deed.cloud?, hmark, Except.isOk, Except.toBool, Mark.ofDecision]
    · exact (w.bus.capacity_publish .collisionWarning .collisionWarning _).symm ▸ h.capacity
    · exact (w.bus.listeners_publish .collisionWarning .collisionWarning _).trans h.listeners
    · rw [marksOf_judge, hmark]
      intro m hm
      -- The monitor listens itself, so the verdict is sent.
      have hlisteners : 0 < w.bus.verdicts.listeners := by
        rw [h.listeners, hm]
        exact Nat.lt_of_lt_of_le Nat.zero_lt_one (Nat.le_add_right 1 w.audience)
      refine (h.informed m hm).publish hlisteners hn ?_
      rw [← List.append_assoc, ← marksOf_append, ← hdecide.isPersistent_iff]
      exact Iff.rfl

/-- A loss can be reported while the total fits into its word. -/
theorem Sound.discard (h : Sound s₀ before since w) {lost : UInt64}
    (hlost : lostTotal (before ++ since) + lost.toNat < UInt64.size) :
    ∃ w', w.act (.discard lost) = .ok w' ∧ Sound s₀ before (since ++ [.discard lost]) w' ∧
      w'.monitor.isSome = w.monitor.isSome := by
  rw [← h.lost] at hlost
  have hact : w.act (.discard lost) = .ok { w with sentinel := { w.sentinel with
      streak := w.sentinel.streak.reset
      stats := { w.sentinel.stats with lost := w.sentinel.stats.lost + lost } } } := by
    rw [act, Sentinel.discardStreak_eq_ok hlost]
    rfl
  have hmarks : ∀ deeds, marksOf s₀ (deeds ++ [.discard lost]) = marksOf s₀ deeds ++ [.gap] :=
    fun deeds => marksOf_append_singleton s₀ deeds _
  refine ⟨_, hact, ⟨?_, ?_, ?_, h.capacity, h.listeners, ?_, h.poisoned, h.component⟩, rfl⟩
  · rw [← List.append_assoc, hmarks]
    exact (h.follows.reset _).withStats _
  · rw [← List.append_assoc, lostTotal_append_singleton, ← h.lost]
    exact Sentinel.toNat_add_of_lt hlost
  · rw [← List.append_assoc, decidedOf_append_singleton]
    simpa [Deed.cloud?] using h.answers
  · rw [hmarks]
    exact fun m hm => (h.informed m hm).idle (by decide)

/-- A round of the monitor. -/
theorem act_round {m : BrakeMonitor} (hmonitor : w.monitor = some m) (time : Float) :
    w.act (.round time) = .ok { w with
      monitor := some (m.round w.bus w.board time).1
      board := (m.round w.bus w.board time).2.1 } := by
  rw [act, hmonitor]

/-- A round can be made whether or not the monitor is there. -/
theorem Sound.round (h : Sound s₀ before since w) (time : Float) :
    ∃ w', w.act (.round time) = .ok w' ∧ Sound s₀ before (since ++ [.round time]) w' ∧
      w'.monitor.isSome = w.monitor.isSome := by
  cases hmonitor : w.monitor with
  | none =>
    refine ⟨w, by rw [act, hmonitor], ?_, by rw [hmonitor]⟩
    exact h.stay ⟨rfl, rfl, rfl⟩
  | some m =>
    have hinformed := h.informed m hmonitor
    have hboard := BrakeMonitor.board_round (hinformed.capacity_pos h.capacity) h.poisoned
      h.component time
    refine ⟨_, act_round hmonitor time, ?_, rfl⟩
    refine h.of_unmarked ⟨rfl, rfl, rfl⟩ rfl rfl rfl ?_ ?_ ?_ ?_
    · rw [h.listeners, hmonitor]
      rfl
    · rintro _ ⟨⟩
      exact hinformed.round h.capacity w.board time
    · exact hboard ▸ h.poisoned
    · dsimp only
      rw [hboard, BrakeMonitor.contains_assess]
      exact h.component

/-- Others may begin to listen to any topic. -/
theorem Sound.listen (h : Sound s₀ before since w) (topic : Topic) :
    ∃ w', w.act (.listen topic) = .ok w' ∧ Sound s₀ before (since ++ [.listen topic]) w' ∧
      w'.monitor.isSome = w.monitor.isSome := by
  refine ⟨_, rfl, ?_, rfl⟩
  refine h.of_unmarked ⟨rfl, rfl, rfl⟩ rfl rfl ?_ ?_ ?_ h.poisoned h.component
  · cases topic <;> rfl
  · rw [audience, count_append_listener, ← audience, ← Nat.add_assoc, ← h.listeners]
    cases topic <;> rfl
  · intro m hm
    refine (h.informed m hm).congr ?_
    cases topic <;> rfl

/-- Others may take events; only their own places change. -/
theorem Sound.read (h : Sound s₀ before since w) (place : Nat) :
    ∃ w', w.act (.read place) = .ok w' ∧ Sound s₀ before (since ++ [.read place]) w' ∧
      w'.monitor.isSome = w.monitor.isSome := by
  cases hplace : w.others[place]? with
  | none => exact ⟨w, by rw [act, hplace], h.stay ⟨rfl, rfl, rfl⟩, rfl⟩
  | some listener =>
    refine ⟨{ w with others := w.others.set place (listener.receive w.bus).2 },
      by rw [act, hplace], ?_, rfl⟩
    refine h.of_unmarked ⟨rfl, rfl, rfl⟩ rfl rfl rfl ?_ h.informed h.poisoned h.component
    rw [h.listeners, audience, audience]
    exact congrArg (_ + List.count _ ·) (map_topic_set hplace _).symm

/-- Others may stop listening; the monitor goes on. -/
theorem Sound.leave (h : Sound s₀ before since w) (place : Nat) :
    ∃ w', w.act (.leave place) = .ok w' ∧ Sound s₀ before (since ++ [.leave place]) w' ∧
      w'.monitor.isSome = w.monitor.isSome := by
  cases hplace : w.others[place]? with
  | none => exact ⟨w, by rw [act, hplace], h.stay ⟨rfl, rfl, rfl⟩, rfl⟩
  | some listener =>
    have haudience : w.audience = audience { w with others := w.others.eraseIdx place } +
        if listener.topic = .collisionWarning then 1 else 0 := count_eraseIdx_listener hplace
    have hlisteners := h.listeners
    rw [haudience] at hlisteners
    refine ⟨{ w with
      bus := w.bus.unsubscribe listener.topic
      others := w.others.eraseIdx place }, by rw [act, hplace], ?_, rfl⟩
    refine h.of_unmarked ⟨rfl, rfl, rfl⟩ rfl rfl ?_ ?_ ?_ h.poisoned h.component
    · cases listener.topic <;> rfl
    · cases htopic : listener.topic with
      | pointCloud =>
        rw [htopic] at hlisteners
        exact hlisteners
      | collisionWarning =>
        rw [htopic, if_pos rfl] at hlisteners
        change w.bus.verdicts.listeners - 1 = _
        rw [hlisteners]
        rfl
    · intro m hm
      refine (h.informed m hm).congr ?_
      cases listener.topic <;> rfl

/-- What is published among the clouds does not touch the verdicts. -/
theorem Sound.carry (h : Sound s₀ before since w) (event : Event) :
    ∃ w', w.act (.carry event) = .ok w' ∧ Sound s₀ before (since ++ [.carry event]) w' ∧
      w'.monitor.isSome = w.monitor.isSome := by
  have hverdicts : (w.bus.publish .pointCloud event).2.verdicts = w.bus.verdicts :=
    (w.bus.channel_publish .pointCloud .collisionWarning event).trans (if_neg (by simp))
  refine ⟨_, rfl, ?_, rfl⟩
  refine h.of_unmarked ⟨rfl, rfl, rfl⟩ rfl rfl ?_ ?_ ?_ h.poisoned h.component
  · exact congrArg (·.capacity) hverdicts
  · exact (congrArg (·.listeners) hverdicts).trans h.listeners
  · intro m hm
    exact (h.informed m hm).congr (congrArg (·.sent) hverdicts)

/-- **Every deed can be done, and keeps the watch sound.** -/
theorem Sound.act (h : Sound s₀ before since w) (htree : s₀.tree.Built IsNumber)
    (hn : 0 < s₀.streak.threshold.toNat) (deed : Deed)
    (hlost : lostTotal (before ++ since) + deed.lost < UInt64.size) :
    ∃ w', w.act deed = .ok w' ∧ Sound s₀ before (since ++ [deed]) w' ∧
      w'.monitor.isSome = w.monitor.isSome := by
  cases deed with
  | judge cloud stamp => exact h.judge htree hn cloud stamp
  | discard lost => exact h.discard hlost
  | round time => exact h.round time
  | listen topic => exact h.listen topic
  | read place => exact h.read place
  | leave place => exact h.leave place
  | carry event => exact h.carry event

/-! ## Runs -/

/-- **Any deeds can be done in any order.** -/
theorem Sound.run (h : Sound s₀ before [] w) (htree : s₀.tree.Built IsNumber)
    (hn : 0 < s₀.streak.threshold.toNat) (deeds : List Deed)
    (hlost : lostTotal (before ++ deeds) < UInt64.size) :
    ∃ w', w.run deeds = .ok w' ∧ Sound s₀ before deeds w' ∧
      w'.monitor.isSome = w.monitor.isSome := by
  induction deeds using List.reverseRecOn with
  | nil => exact ⟨w, rfl, h, rfl⟩
  | append_singleton deeds deed ih =>
    rw [← List.append_assoc, lostTotal_append_singleton] at hlost
    obtain ⟨w₁, hrun, hsound, hmonitor⟩ := ih (by omega)
    obtain ⟨w₂, hact, hsound', hmonitor'⟩ := hsound.act htree hn deed hlost
    exact ⟨w₂, (foldlM_append_singleton hrun deed).trans hact, hsound', hmonitor'.trans hmonitor⟩

/-- A new sentinel, a bus and a board make a sound watch. -/
theorem Sound.start {bus : Bus} {board : StatusBoard} (hcount : s₀.streak.count = 0)
    (hlost : s₀.stats.lost = 0) (hcapacity : 0 < bus.verdicts.capacity)
    (hlisteners : bus.verdicts.listeners = 0) (hpoisoned : board.poisoned = false)
    (hcomponent : board.status.components.contains BrakeMonitor.component = true) :
    Sound s₀ [] [] { sentinel := s₀, bus, board } where
  follows := Sentinel.Follows.refl s₀ hcount
  lost := by rw [hlost]; rfl
  answers := rfl
  capacity := hcapacity
  listeners := hlisteners
  informed := fun m hm => nomatch hm
  poisoned := hpoisoned
  component := hcomponent

/-- The monitor can be added at any time. -/
theorem Sound.install (h : Sound s₀ [] before w) (hmonitor : w.monitor = none)
    (interval : Duration) : Sound s₀ before [] (w.install interval) := by
  refine ⟨?_, ?_, ?_, h.capacity, ?_, ?_, h.poisoned, h.component⟩
  · rw [List.append_nil]
    exact h.follows
  · rw [List.append_nil]
    exact h.lost
  · rw [List.append_nil]
    exact h.answers
  · change w.bus.verdicts.listeners + 1 = 1 + w.audience
    rw [h.listeners, hmonitor, Option.toList_none, List.length_nil, Nat.zero_add, Nat.add_comm]
  · rintro _ ⟨⟩
    exact Informed.create _ _ w.bus interval

end Watch

end CollisionWatch
