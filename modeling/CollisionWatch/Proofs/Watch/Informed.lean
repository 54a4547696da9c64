import CollisionWatch.Proofs.Bus.Topics
import CollisionWatch.Proofs.Monitor.Rounds
import CollisionWatch.Proofs.Sentinel.Verdicts

/-!
# What the brake monitor is told

The monitor is told what it needs to know: the newest verdict on the bus is a collision exactly if
the marks that the sentinel has followed put one into force (`Informed`). Only a verdict can change
either side, and every verdict reaches the monitor, because the monitor itself listens. It does not
matter how many verdicts the monitor has missed, or when it looks.
-/

namespace CollisionWatch

/-- The next round of the monitor will find a collision exactly if the marks have put one into
force since the monitor came. -/
structure Informed (n : Nat) (before since : List Mark) (bus : Bus) (m : BrakeMonitor) : Prop where
  /-- The monitor listens to the verdicts. -/
  topic : m.observer.listener.topic = .collisionWarning
  /-- It has not come further than they have. -/
  position : m.observer.listener.position ≤ bus.verdicts.sent.size
  /-- It will find what is in force. -/
  foresees_iff : m.foresees bus = true ↔ InForce n before since

namespace Informed

variable {n : Nat} {before since : List Mark} {bus : Bus} {m : BrakeMonitor}

/-- The monitor can be told as long as the verdicts have room. -/
theorem capacity_pos (h : Informed n before since bus m) (hcapacity : 0 < bus.verdicts.capacity) :
    0 < (bus.channel m.observer.listener.topic).capacity := by
  rw [h.topic]
  exact hcapacity

/-- A new monitor knows of no verdict, and none is in force for it. -/
theorem create (n : Nat) (before : List Mark) (bus : Bus) (interval : Duration) :
    Informed n before [] (BrakeMonitor.create bus interval).2
      (BrakeMonitor.create bus interval).1 where
  topic := rfl
  position := Nat.le_refl _
  foresees_iff := by
    have hnewest : (BrakeMonitor.create bus interval).1.observer.newest
        (BrakeMonitor.create bus interval).2 = none :=
      Observer.newest_create bus .collisionWarning
    rw [BrakeMonitor.foresees, hnewest]
    exact iff_of_false Bool.false_ne_true (not_inForce_nil n before)

/-- The events among the verdicts are all that counts. -/
theorem congr {bus' : Bus} (h : Informed n before since bus m)
    (hsent : bus'.verdicts.sent = bus.verdicts.sent) : Informed n before since bus' m where
  topic := h.topic
  position := hsent ▸ h.position
  foresees_iff := by
    have hsame : (bus'.channel m.observer.listener.topic).sent =
        (bus.channel m.observer.listener.topic).sent := by
      rw [h.topic]
      exact hsent
    rw [BrakeMonitor.foresees, Observer.newest_congr hsame, ← BrakeMonitor.foresees]
    exact h.foresees_iff

/-- A mark without a verdict changes nothing. -/
theorem idle (h : Informed n before since bus m) {mark : Mark}
    (hmark : mark ≠ .risky ∧ mark ≠ .clear) : Informed n before (since ++ [mark]) bus m where
  topic := h.topic
  position := h.position
  foresees_iff := h.foresees_iff.trans (inForce_append_iff n before since hmark).symm

/-- A verdict that is true to the marks is found by the next round. -/
theorem publish (h : Informed n before since bus m) (hlisteners : 0 < bus.verdicts.listeners)
    {risky : Bool} {stamp : Stamp} {source : String} {verdict : Verdict} (hn : 0 < n)
    (hverdict : verdict.collision = true ↔ Sustained n (before ++ (since ++ [.ofDecision risky]))) :
    Informed n before (since ++ [.ofDecision risky])
      (bus.publish .collisionWarning ⟨stamp, source, .verdict verdict⟩).2 m := by
  have hchannel := bus.channel_publish .collisionWarning .collisionWarning
    ⟨stamp, source, .verdict verdict⟩
  rw [if_pos ⟨rfl, hlisteners⟩] at hchannel
  have hsize : (bus.publish .collisionWarning
      ⟨stamp, source, .verdict verdict⟩).2.verdicts.sent.size = bus.verdicts.sent.size + 1 :=
    (congrArg (·.sent.size) hchannel).trans (Array.size_push _)
  have hnewest := Observer.newest_publish m.observer bus (h.topic ▸ hlisteners)
    (h.topic ▸ h.position) ⟨stamp, source, .verdict verdict⟩
  rw [h.topic] at hnewest
  refine ⟨h.topic, hsize ▸ Nat.le_succ_of_le h.position, ?_⟩
  rw [inForce_append_ofDecision_iff hn, ← hverdict, BrakeMonitor.foresees, hnewest]
  rfl

/-- A round takes what there is, and the next one will find the same. -/
theorem round (h : Informed n before since bus m) (hcapacity : 0 < bus.verdicts.capacity)
    (board : StatusBoard) (time : Float) :
    Informed n before since bus (m.round bus board time).1 := by
  have hcapacity' := h.capacity_pos hcapacity
  refine ⟨?_, ?_, ?_⟩
  · rw [BrakeMonitor.observer_round]
    exact h.topic
  · rw [BrakeMonitor.observer_round, Observer.position_observe hcapacity', h.topic]
    exact Nat.max_le.2 ⟨h.position, Nat.le_refl _⟩
  · rw [BrakeMonitor.foresees_round hcapacity']
    exact h.foresees_iff

end Informed

end CollisionWatch
