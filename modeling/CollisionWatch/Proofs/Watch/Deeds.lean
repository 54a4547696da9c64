import CollisionWatch.Monitor.Brake
import CollisionWatch.Proofs.Runs
import CollisionWatch.Proofs.Sentinel.Marks

/-!
# A watch and what is done with it

A watch is a sentinel and a brake monitor on one bus, the board that the monitor writes, and the
other listeners of the bus. Deeds happen in any order: clouds are judged, gaps are reported, rounds
are made, and others come, read and leave. The sentinel is the only one to publish verdicts.

A list of deeds leaves marks (`marksOf`), which depend on the sentinel only by its thresholds and
its tree, and a number of lost clouds (`lostTotal`).
-/

namespace CollisionWatch

/-- One thing that is done with a watch. -/
inductive Deed where
  /-- A cloud is judged, and the verdict gets this stamp. -/
  | judge (cloud : Cloud) (stamp : Stamp)
  /-- The sentinel is told that this many clouds were lost. -/
  | discard (lost : UInt64)
  /-- The monitor makes a round at this time. -/
  | round (time : Float)
  /-- Somebody else begins to listen to a topic. -/
  | listen (topic : Topic)
  /-- One of the others takes an event. -/
  | read (place : Nat)
  /-- One of the others stops listening. -/
  | leave (place : Nat)
  /-- Somebody publishes an event among the clouds. -/
  | carry (event : Event)

namespace Deed

/-- The mark that a deed leaves. -/
def mark? (s : Sentinel) : Deed → Option Mark
  | judge cloud _ => some (s.markOf cloud)
  | discard _ => some .gap
  | _ => none

/-- The cloud that a deed asks a verdict for. -/
def cloud? : Deed → Option Cloud
  | judge cloud _ => some cloud
  | _ => none

/-- How many clouds a deed reports as lost. -/
def lost : Deed → Nat
  | discard lost => lost.toNat
  | _ => 0

end Deed

/-- The marks that deeds leave. -/
def marksOf (s : Sentinel) (deeds : List Deed) : List Mark := deeds.filterMap (Deed.mark? s)

/-- How many clouds deeds report as lost. -/
def lostTotal : List Deed → Nat
  | [] => 0
  | deed :: rest => deed.lost + lostTotal rest

/-- Whether each of the clouds got a verdict. -/
def decidedOf (s : Sentinel) (deeds : List Deed) : List Bool :=
  (deeds.filterMap Deed.cloud?).map fun cloud => s.markOf cloud != .unplaced

/-- A sentinel, a brake monitor and others on one bus. -/
structure Watch where
  /-- The sentinel. -/
  sentinel : Sentinel
  /-- The bus. -/
  bus : Bus
  /-- The board that the monitor writes. -/
  board : StatusBoard
  /-- The monitor, once it is there. -/
  monitor : Option BrakeMonitor := none
  /-- The other listeners. -/
  others : List Listener := []
  /-- The answers of the sentinel so far. -/
  answers : List (Except Fault Verdict) := []

namespace Watch

/-- The watch with a new monitor. -/
def install (w : Watch) (interval : Duration) : Watch :=
  let (monitor, bus) := BrakeMonitor.create w.bus interval
  { w with monitor := some monitor, bus }

/-- The watch after a deed. Without a monitor there are no rounds. -/
def act (w : Watch) : Deed → Except Crash Watch
  | .judge cloud stamp => do
    let outcome ← w.sentinel.process cloud w.bus stamp
    return { w with
      sentinel := outcome.sentinel
      bus := outcome.bus
      answers := w.answers ++ [outcome.result] }
  | .discard lost => do
    let (sentinel, _) ← w.sentinel.discardStreak lost
    return { w with sentinel }
  | .round time =>
    match w.monitor with
    | none => .ok w
    | some monitor =>
      let (monitor, board, _) := monitor.round w.bus w.board time
      .ok { w with monitor := some monitor, board }
  | .listen topic =>
    let (listener, bus) := w.bus.subscribe topic
    .ok { w with bus, others := w.others ++ [listener] }
  | .read place =>
    match w.others[place]? with
    | none => .ok w
    | some listener => .ok { w with others := w.others.set place (listener.receive w.bus).2 }
  | .leave place =>
    match w.others[place]? with
    | none => .ok w
    | some listener =>
      .ok { w with bus := w.bus.unsubscribe listener.topic, others := w.others.eraseIdx place }
  | .carry event => .ok { w with bus := (w.bus.publish .pointCloud event).2 }

/-- The watch after some deeds. -/
def run (w : Watch) (deeds : List Deed) : Except Crash Watch := deeds.foldlM act w

/-- The others that listen to the verdicts. -/
def audience (w : Watch) : Nat := (w.others.map (·.topic)).count .collisionWarning

end Watch

/-! ## What deeds leave -/

/-- Deeds leave their marks one after the other. -/
theorem marksOf_append (s : Sentinel) (deeds others : List Deed) :
    marksOf s (deeds ++ others) = marksOf s deeds ++ marksOf s others := List.filterMap_append

/-- The marks of some deeds and one more. -/
theorem marksOf_append_singleton (s : Sentinel) (deeds : List Deed) (deed : Deed) :
    marksOf s (deeds ++ [deed]) = marksOf s deeds ++ (deed.mark? s).toList := by
  unfold marksOf
  rw [List.filterMap_append, List.filterMap_cons]
  cases deed.mark? s <;> rfl

/-- Deeds report their losses one after the other. -/
theorem lostTotal_append (deeds others : List Deed) :
    lostTotal (deeds ++ others) = lostTotal deeds + lostTotal others := by
  induction deeds with
  | nil => exact (Nat.zero_add _).symm
  | cons deed rest ih => rw [List.cons_append, lostTotal, lostTotal, ih, Nat.add_assoc]

/-- The lost clouds of some deeds and one more. -/
theorem lostTotal_append_singleton (deeds : List Deed) (deed : Deed) :
    lostTotal (deeds ++ [deed]) = lostTotal deeds + deed.lost :=
  lostTotal_append deeds [deed]

/-- What became of the clouds of some deeds and one more. -/
theorem decidedOf_append_singleton (s : Sentinel) (deeds : List Deed) (deed : Deed) :
    decidedOf s (deeds ++ [deed]) =
      decidedOf s deeds ++ (deed.cloud?.map fun cloud => s.markOf cloud != .unplaced).toList := by
  unfold decidedOf
  rw [List.filterMap_append, List.map_append, List.filterMap_cons]
  cases deed.cloud? <;> rfl

end CollisionWatch
