import CollisionWatch.Monitor.Brake
import CollisionWatch.Proofs.Bus.Observing
import CollisionWatch.Proofs.NameMap

/-!
# What a round of the brake monitor writes

A round writes one of two statuses, by the newest verdict (`IsBraking`, `IsReleased`), and writes it
as a whole: nothing of an older safety action stays (`shows_round`). Which of the two it will be can
be told before the round (`BrakeMonitor.foresees`), and a round does not change it for the next one
(`foresees_round`).
-/

namespace CollisionWatch.BrakeMonitor

/-- The status demands an emergency stop since that time. -/
structure IsBraking (time : Float) (status : SafetyStatus) : Prop where
  /-- The vehicle must stop. -/
  stop : status.stop = true
  /-- Passengers are told so. -/
  message : status.message = some warning
  /-- The time of the demand is known. -/
  since : status.since = some time
  /-- The component demands the stop. -/
  component : status.components.get? component = some ⟨.fatal, warning⟩

/-- The status demands nothing. -/
structure IsReleased (status : SafetyStatus) : Prop where
  /-- The vehicle need not stop. -/
  stop : status.stop = false
  /-- Passengers are told nothing. -/
  message : status.message = none
  /-- No safety action is on. -/
  since : status.since = none
  /-- The component is well. -/
  component : status.components.get? component = some ⟨.ok, ""⟩

/-! ## The status -/

/-- A component that is there has the state that it was given. -/
theorem get?_setComponent (status : SafetyStatus) {name : String}
    (h : status.components.contains name = true) (state : Component) :
    (status.setComponent name state).2.components.get? name = some state := by
  obtain ⟨old, hold⟩ := Option.isSome_iff_exists.1 h
  unfold SafetyStatus.setComponent
  rw [NameMap.get?_modify, if_pos rfl, hold, Option.map_some]

variable {status : SafetyStatus}

/-- A collision is shown as one. -/
theorem isBraking_assess (h : status.components.contains component = true) (time : Float) :
    IsBraking time (assess true time status).2 := by
  unfold assess
  refine ⟨rfl, rfl, rfl, ?_⟩
  exact get?_setComponent (status.setAction (some warning) (some time) true) h _

/-- No collision is shown as none, whatever was shown before. -/
theorem isReleased_assess (h : status.components.contains component = true) (time : Float) :
    IsReleased (assess false time status).2 := by
  unfold assess
  refine ⟨rfl, rfl, rfl, ?_⟩
  exact get?_setComponent status.clearAction h _

/-- A component that is there is reported on. -/
theorem fst_assess (h : status.components.contains component = true) (collision : Bool)
    (time : Float) : (assess collision time status).1 = true := by
  unfold assess
  cases collision
  · exact h
  · exact h

/-- What is shown keeps the components. -/
theorem contains_assess (collision : Bool) (time : Float) (name : String) :
    (assess collision time status).2.components.contains name =
      status.components.contains name := by
  unfold assess
  cases collision
  · exact NameMap.contains_modify _ _ _ _
  · exact NameMap.contains_modify _ _ _ _

/-! ## The round -/

variable {m : BrakeMonitor} {bus : Bus} {board : StatusBoard}

/-- The next round will find a collision. -/
def foresees (m : BrakeMonitor) (bus : Bus) : Bool :=
  ((m.observer.newest bus).bind (·.payload.verdict?)).any (·.collision)

/-- A round is a look at the verdicts. -/
theorem observer_round (time : Float) :
    (m.round bus board time).1.observer = (m.observer.observe bus).1 := by
  unfold round
  dsimp only
  split <;> rfl

/-- A round does not change what the next one will find. -/
theorem foresees_round (h : 0 < (bus.channel m.observer.listener.topic).capacity) (time : Float) :
    (m.round bus board time).1.foresees bus = m.foresees bus := by
  rw [foresees, observer_round, Observer.newest_observe h, ← foresees]

/-- The next round will find what was newest when nothing newer is there. -/
theorem latestVerdict_observe (h : 0 < (bus.channel m.observer.listener.topic).capacity) :
    ({ m with observer := (m.observer.observe bus).1 } : BrakeMonitor).latestVerdict.any
      (·.collision) = m.foresees bus := by
  unfold latestVerdict
  dsimp only
  rw [Observer.latest_observe h, ← foresees]

/-- **A round writes the status that the newest verdict asks for.** -/
theorem board_round (h : 0 < (bus.channel m.observer.listener.topic).capacity)
    (hpoisoned : board.poisoned = false)
    (hcomponent : board.status.components.contains component = true) (time : Float) :
    (m.round bus board time).2.1 =
      { board with status := (assess (m.foresees bus) time board.status).2 } := by
  have hanswer := fst_assess hcomponent (m.foresees bus) time
  unfold round
  dsimp only
  rw [latestVerdict_observe h, StatusBoard.update, if_neg (by rw [hpoisoned]; decide), change,
    if_pos hcomponent]
  rcases hassess : assess (m.foresees bus) time board.status with ⟨answer, status⟩
  rw [hassess] at hanswer
  obtain rfl : answer = true := hanswer
  rfl

/-- **After a round the status shows a collision exactly if the newest verdict is one.** -/
theorem shows_round (h : 0 < (bus.channel m.observer.listener.topic).capacity)
    (hpoisoned : board.poisoned = false)
    (hcomponent : board.status.components.contains component = true) (time : Float) :
    (m.foresees bus = true → IsBraking time (m.round bus board time).2.1.status) ∧
      (m.foresees bus = false → IsReleased (m.round bus board time).2.1.status) := by
  rw [board_round h hpoisoned hcomponent]
  constructor
  · intro hcollision
    rw [hcollision]
    exact isBraking_assess hcomponent time
  · intro hclear
    rw [hclear]
    exact isReleased_assess hcomponent time

end CollisionWatch.BrakeMonitor
