import CollisionWatch.Proofs.Monitor.Rounds
import Mathlib.Data.List.Chain

/-!
# The safety status through a whole run

A vigil is a brake monitor that makes its rounds while events are published and other things happen
on the bus. It writes five fields of a record that others read, and keeps a note of its own about
what it wrote last. Every step keeps them in agreement (`Vigil.Sound`), also a round whose update
fails and a round on a record without the monitor's component. So whoever can read the record finds
a safety action with all its parts or none at all, no other component is touched, and the notices to
the operator tell by turns of a demand and of its end (`Vigil.faithful_run`).
-/

namespace CollisionWatch

/-- The demand that a notice tells of: a stop, or no stop any more. -/
def Notice.demand? : Notice → Option Bool
  | .brakingRequested => some true
  | .brakingReleased => some false
  | _ => none

/-- The demands that notices tell of, one after the other. -/
def demands (notices : List Notice) : List Bool := notices.filterMap Notice.demand?

/-- Notices one after the other make their demands one after the other. -/
theorem demands_append (notices others : List Notice) :
    demands (notices ++ others) = demands notices ++ demands others := List.filterMap_append

/-- A look at a topic tells of no demand. -/
theorem Observer.demands_drain (ch : Channel Event) (position : Nat) (latest : Option Event)
    (notices : List Notice) :
    demands (Observer.drain ch position latest notices).2.2 = demands notices := by
  fun_induction Observer.drain ch position latest notices with
  | case1 position latest notices hlag ih =>
    rw [ih, demands_append]
    exact List.append_nil _
  | case2 position latest notices hlag hlt ih => exact ih
  | case3 position latest notices hlag hge => rfl

namespace SafetyStatus

open BrakeMonitor (component warning)

/-- A safety action is shown with all its parts, or nothing is shown of one. -/
structure AllOrNothing (status : SafetyStatus) : Prop where
  /-- Passengers are warned exactly if the vehicle must stop. -/
  message_iff : status.stop = true ↔ status.message = some warning
  /-- A time is shown exactly if the vehicle must stop. -/
  since_iff : status.stop = true ↔ status.since.isSome = true
  /-- The component demands a stop exactly if the vehicle must stop. -/
  component_iff : status.stop = true ↔
    status.components.get? component = some ⟨.fatal, warning⟩
  /-- Otherwise passengers are told nothing. -/
  message_eq_none : status.stop = false → status.message = none
  /-- Otherwise no time is shown. -/
  since_eq_none : status.stop = false → status.since = none

/-- The components are those that the record was made with, and only that of the brake monitor has
another state. -/
structure Keeps (names : List String) (status : SafetyStatus) : Prop where
  /-- The components are the same. -/
  names_eq : status.components.names = (ofNames names).components.names
  /-- The others have the state they had. -/
  get?_eq : ∀ name, name ≠ component →
    status.components.get? name = (ofNames names).components.get? name

/-- A new status is all or nothing. -/
theorem allOrNothing_ofNames (names : List String) : (ofNames names).AllOrNothing := by
  have hcomponent : (ofNames names).components.get? component ≠ some ⟨.fatal, warning⟩ := by
    unfold ofNames
    dsimp only
    rw [NameMap.get?_ofList_map]
    split <;> simp
  constructor
  · simp [ofNames]
  · simp [ofNames]
  · simpa [ofNames] using hcomponent
  · simp [ofNames]
  · simp [ofNames]

/-- The component is there exactly if the record was made with it. -/
theorem Keeps.contains_iff {names : List String} {status : SafetyStatus} (h : status.Keeps names) :
    status.components.contains component = true ↔ component ∈ names := by
  unfold NameMap.contains
  rw [← NameMap.mem_names_iff, h.names_eq, NameMap.mem_names_iff]
  unfold ofNames
  dsimp only
  rw [NameMap.get?_ofList_map]
  split <;> simp [*]

end SafetyStatus

namespace BrakeMonitor

variable {status : SafetyStatus}

/-- A braking status is all or nothing. -/
theorem IsBraking.allOrNothing {time : Float} (h : IsBraking time status) :
    status.AllOrNothing := by
  constructor <;> simp [h.stop, h.message, h.since, h.component]

/-- A released status is all or nothing. -/
theorem IsReleased.allOrNothing (h : IsReleased status) : status.AllOrNothing := by
  constructor <;> simp [h.stop, h.message, h.since, h.component]

/-- What a round writes is a safety action with all its parts, or none. -/
theorem allOrNothing_assess (h : status.components.contains component = true) (collision : Bool)
    (time : Float) : (assess collision time status).2.AllOrNothing := by
  cases collision with
  | false => exact (isReleased_assess h time).allOrNothing
  | true => exact (isBraking_assess h time).allOrNothing

/-- The stop is demanded after a collision, and only then. -/
@[simp] theorem stop_assess (collision : Bool) (time : Float) :
    (assess collision time status).2.stop = collision := by
  cases collision <;> rfl

/-- What a round writes leaves the other components alone. -/
theorem keeps_assess {names : List String} (h : status.Keeps names) (collision : Bool)
    (time : Float) : (assess collision time status).2.Keeps names := by
  have hcomponents : ∃ state, (assess collision time status).2.components =
      status.components.modify component fun _ => state := by
    cases collision with
    | false => exact ⟨⟨.ok, ""⟩, rfl⟩
    | true => exact ⟨⟨.fatal, warning⟩, rfl⟩
  obtain ⟨state, hstate⟩ := hcomponents
  constructor
  · rw [hstate, NameMap.names_modify, h.names_eq]
  · intro name hname
    rw [hstate, NameMap.get?_modify, if_neg hname, h.get?_eq name hname]

/-- The notice of a changed verdict tells of its demand. -/
theorem demands_transition (before after : Bool) :
    demands (transition before after) = if before = after then [] else [after] := by
  cases before <;> cases after <;> rfl

/-- A round finds a record that it cannot write or that has no component for it, and then leaves
everything as it was, or it writes the record and notes what it wrote. -/
theorem round_cases (m : BrakeMonitor) (bus : Bus) (board : StatusBoard) (time : Float) :
    ((board.poisoned = true ∨ board.status.components.contains component = false) ∧
      (m.round bus board time).1.braking = m.braking ∧
      (m.round bus board time).2.1 = board ∧ demands (m.round bus board time).2.2 = []) ∨
    (board.status.components.contains component = true ∧
      ∃ collision, (m.round bus board time).1.braking = collision ∧
        (m.round bus board time).2.1 =
          { board with status := (assess collision time board.status).2 } ∧
        demands (m.round bus board time).2.2 =
          if m.braking = collision then [] else [collision]) := by
  have hlags : demands (m.observer.observe bus).2 = [] :=
    Observer.demands_drain _ m.observer.listener.position m.observer.latest []
  unfold round
  dsimp only
  generalize ({ m with observer := (m.observer.observe bus).1 } :
    BrakeMonitor).latestVerdict.any (·.collision) = collision
  unfold StatusBoard.update
  by_cases hpoisoned : board.poisoned = true
  · rw [if_pos hpoisoned]
    refine .inl ⟨.inl hpoisoned, rfl, rfl, ?_⟩
    rw [demands_append, hlags]
    rfl
  · rw [if_neg hpoisoned]
    unfold change
    by_cases hcomponent : board.status.components.contains component = true
    · have hanswer := fst_assess hcomponent collision time
      rw [if_pos hcomponent]
      rcases hassess : assess collision time board.status with ⟨answer, status⟩
      rw [hassess] at hanswer
      obtain rfl : answer = true := hanswer
      refine .inr ⟨hcomponent, collision, rfl, ?_, ?_⟩
      · rw [hassess]
      · rw [demands_append, hlags, demands_transition]
        rfl
    · rw [if_neg hcomponent]
      exact .inl ⟨.inr (Bool.eq_false_iff.2 hcomponent), rfl, rfl, hlags⟩

end BrakeMonitor

/-! ## Vigils -/

/-- A brake monitor with the bus it looks at, the board it writes and what it told the operator. -/
structure Vigil where
  /-- The monitor. -/
  monitor : BrakeMonitor
  /-- The bus. -/
  bus : Bus
  /-- The board that only the monitor writes. -/
  board : StatusBoard
  /-- The notices so far. -/
  notices : List Notice := []

namespace Vigil

open BrakeMonitor (component)

/-- What can happen next. -/
inductive Step where
  /-- An event is published. -/
  | publish (topic : Topic) (event : Event)
  /-- Something else happens to the bus. -/
  | bus (change : Bus → Bus)
  /-- The monitor makes a round at this time. -/
  | round (time : Float)
  /-- An update of the status breaks off half-way. -/
  | breakOff

/-- A new monitor on a bus, and a new board for these components. -/
def start (names : List String) (bus : Bus) (interval : Duration) : Vigil :=
  let (monitor, bus) := BrakeMonitor.create bus interval
  { monitor, bus, board := .ofNames names }

/-- The vigil after a step. -/
def step (v : Vigil) : Step → Vigil
  | .publish topic event => { v with bus := (v.bus.publish topic event).2 }
  | .bus change => { v with bus := change v.bus }
  | .round time =>
    let (monitor, board, notices) := v.monitor.round v.bus v.board time
    { v with monitor, board, notices := v.notices ++ notices }
  | .breakOff => { v with board := v.board.poison.2 }

/-- The vigil after some steps. -/
def run (v : Vigil) (steps : List Step) : Vigil := steps.foldl step v

/-- The record, the note of the monitor and the notices agree with each other. -/
structure Sound (names : List String) (v : Vigil) : Prop where
  /-- The record shows a safety action with all its parts, or none. -/
  allOrNothing : v.board.status.AllOrNothing
  /-- No other component was touched. -/
  keeps : v.board.status.Keeps names
  /-- The monitor knows what it wrote. -/
  braking : v.monitor.braking = v.board.status.stop
  /-- Every demand differs from the one before, and the first one from none. -/
  alternates : (false :: demands v.notices).IsChain (· ≠ ·)
  /-- The last demand is the one that the record shows. -/
  latest : (demands v.notices).getLastD false = v.board.status.stop
  /-- Without a component for the monitor nothing ever changes. -/
  untouched : component ∉ names → v.board.status = .ofNames names ∧ demands v.notices = []

/-- A new vigil has shown nothing yet. -/
theorem Sound.start (names : List String) (bus : Bus) (interval : Duration) :
    Sound names (Vigil.start names bus interval) where
  allOrNothing := SafetyStatus.allOrNothing_ofNames names
  keeps := ⟨rfl, fun _ _ => rfl⟩
  braking := rfl
  alternates := List.isChain_singleton false
  latest := rfl
  untouched _ := ⟨rfl, rfl⟩

/-- What neither writes the record nor tells of a demand keeps everything in agreement. -/
theorem Sound.of_eq {names : List String} {v v' : Vigil} (h : Sound names v)
    (hstatus : v'.board.status = v.board.status)
    (hbraking : v'.monitor.braking = v.monitor.braking)
    (hdemands : demands v'.notices = demands v.notices) : Sound names v' := by
  constructor
  · rw [hstatus]
    exact h.allOrNothing
  · rw [hstatus]
    exact h.keeps
  · rw [hstatus, hbraking, h.braking]
  · rw [hdemands]
    exact h.alternates
  · rw [hstatus, hdemands, h.latest]
  · rw [hstatus, hdemands]
    exact h.untouched

/-- A chain goes on with what may follow its last element. -/
theorem isChain_cons_append_singleton {α : Type} {R : α → α → Prop} {a b : α} {l : List α}
    (h : (a :: l).IsChain R) (hlast : R (l.getLastD a) b) : (a :: (l ++ [b])).IsChain R := by
  rw [← List.cons_append]
  refine h.append (List.isChain_singleton b) ?_
  intro last hmem next hnext
  rw [List.getLast?_cons, ← List.getLastD_eq_getLast?] at hmem
  obtain rfl := Option.some.inj hmem
  obtain rfl := Option.some.inj hnext
  exact hlast

/-- A round keeps everything in agreement. -/
theorem Sound.round {names : List String} {v : Vigil} (h : Sound names v) (time : Float) :
    Sound names (v.step (.round time)) := by
  have hnotices : demands (v.step (.round time)).notices =
      demands v.notices ++ demands (v.monitor.round v.bus v.board time).2.2 := demands_append _ _
  rcases v.monitor.round_cases v.bus v.board time with
    ⟨-, hbraking, hboard, hdemands⟩ | ⟨hcomponent, collision, hbraking, hboard, hdemands⟩
  · -- nothing was written, and the monitor did not note anything
    refine h.of_eq ?_ hbraking ?_
    · exact congrArg StatusBoard.status hboard
    · rw [hnotices, hdemands, List.append_nil]
  · rw [hdemands] at hnotices
    have hboard : (v.step (.round time)).board =
      { v.board with status := (BrakeMonitor.assess collision time v.board.status).2 } := hboard
    have hstop : v.monitor.braking = (demands v.notices).getLastD false := by
      rw [h.braking, h.latest]
    rw [hstop] at hnotices
    constructor
    · rw [hboard]
      exact BrakeMonitor.allOrNothing_assess hcomponent collision time
    · rw [hboard]
      exact BrakeMonitor.keeps_assess h.keeps collision time
    · rw [hboard, BrakeMonitor.stop_assess]
      exact hbraking
    · rw [hnotices]
      split
      · rw [List.append_nil]
        exact h.alternates
      · rename_i hne
        exact isChain_cons_append_singleton h.alternates hne
    · rw [hnotices, hboard, BrakeMonitor.stop_assess]
      split
      · rename_i heq
        rw [List.append_nil, heq]
      · rw [List.getLastD_concat]
    · intro habsent
      exact absurd (h.keeps.contains_iff.1 hcomponent) habsent

/-- Every step keeps everything in agreement. -/
theorem Sound.step {names : List String} {v : Vigil} (h : Sound names v) (s : Step) :
    Sound names (v.step s) := by
  cases s with
  | publish topic event => exact h.of_eq rfl rfl rfl
  | bus change => exact h.of_eq rfl rfl rfl
  | round time => exact h.round time
  | breakOff =>
    have hstatus : v.board.poison.2.status = v.board.status := by
      unfold StatusBoard.poison
      split <;> rfl
    exact h.of_eq hstatus rfl rfl

/-- After any steps everything is in agreement. -/
theorem Sound.run {names : List String} {v : Vigil} (h : Sound names v) (steps : List Step) :
    Sound names (v.run steps) := by
  induction steps generalizing v with
  | nil => exact h
  | cons s rest ih => exact ih (h.step s)

/-! ## Broken boards -/

/-- A step breaks the board exactly if an update breaks off. -/
theorem poisoned_step (v : Vigil) (s : Step) :
    (v.step s).board.poisoned = true ↔ v.board.poisoned = true ∨ s = .breakOff := by
  cases s with
  | publish topic event => simp [Vigil.step]
  | bus change => simp [Vigil.step]
  | round time =>
    have hround : (v.monitor.round v.bus v.board time).2.1.poisoned = v.board.poisoned := by
      rcases v.monitor.round_cases v.bus v.board time with ⟨-, -, hboard, -⟩ | ⟨-, _, -, hboard, -⟩
      · rw [hboard]
      · rw [hboard]
    change (v.monitor.round v.bus v.board time).2.1.poisoned = true ↔ _
    simp [hround]
  | breakOff =>
    change v.board.poison.2.poisoned = true ↔ _
    unfold StatusBoard.poison
    split <;> simp [*]

/-- The board is broken exactly if some update broke off. -/
theorem poisoned_run (v : Vigil) (steps : List Step) :
    (v.run steps).board.poisoned = true ↔ v.board.poisoned = true ∨ Step.breakOff ∈ steps := by
  induction steps generalizing v with
  | nil => simp [Vigil.run]
  | cons s rest ih =>
    change ((v.step s).run rest).board.poisoned = true ↔ _
    rw [ih, poisoned_step, List.mem_cons, or_assoc, @eq_comm _ s]

/-- What a vigil shows to its readers and tells its operator. -/
structure Faithful (names : List String) (v : Vigil) : Prop where
  /-- Readers find a safety action with all its parts, or none. -/
  allOrNothing : ∀ status, v.board.snapshot = .ok status → status.AllOrNothing
  /-- Readers find the components as they were, that of the monitor apart. -/
  keeps : ∀ status, v.board.snapshot = .ok status → status.Keeps names
  /-- Without a component for the monitor readers find the first record. -/
  untouched : component ∉ names → ∀ status, v.board.snapshot = .ok status → status = .ofNames names
  /-- Without a component for the monitor the operator is told of no demand. -/
  silent : component ∉ names → demands v.notices = []
  /-- The operator is told of a stop and of its end by turns, of a stop first. -/
  alternates : (false :: demands v.notices).IsChain (· ≠ ·)
  /-- The operator was last told what readers find. -/
  latest : ∀ status, v.board.snapshot = .ok status →
    (demands v.notices).getLastD false = status.stop
  /-- Nobody can read or write a broken board. -/
  broken : v.board.poisoned = true →
    v.board.snapshot = .error .poisonedStatus ∧ v.board.mustStop = .error .poisonedStatus ∧
      ∀ (α : Type) (change : SafetyStatus → α × SafetyStatus),
        v.board.update change = (.error .poisonedStatus, v.board)

/-- Readers find the record itself. -/
theorem status_of_snapshot {board : StatusBoard} {status : SafetyStatus}
    (h : board.snapshot = .ok status) : board.status = status := by
  unfold StatusBoard.snapshot at h
  split at h
  · cases h
  · exact Except.ok.inj h

/-- What is in agreement is shown and told as it is. -/
theorem Sound.faithful {names : List String} {v : Vigil} (h : Sound names v) :
    Faithful names v where
  allOrNothing status hstatus := status_of_snapshot hstatus ▸ h.allOrNothing
  keeps status hstatus := status_of_snapshot hstatus ▸ h.keeps
  untouched habsent status hstatus := status_of_snapshot hstatus ▸ (h.untouched habsent).1
  silent habsent := (h.untouched habsent).2
  alternates := h.alternates
  latest status hstatus := status_of_snapshot hstatus ▸ h.latest
  broken hpoisoned := by
    have hsnapshot : v.board.snapshot = .error .poisonedStatus := if_pos hpoisoned
    refine ⟨hsnapshot, ?_, fun α change => if_pos hpoisoned⟩
    unfold StatusBoard.mustStop
    rw [hsnapshot]
    rfl

/-- **Whatever happens, the record shows a safety action with all its parts or none, and the notices
tell of it faithfully**; the board is broken once an update broke off, and not before. -/
theorem faithful_run (names : List String) (bus : Bus) (interval : Duration)
    (steps : List Step) :
    Faithful names ((start names bus interval).run steps) ∧
      (((start names bus interval).run steps).board.poisoned = true ↔ Step.breakOff ∈ steps) := by
  refine ⟨((Sound.start names bus interval).run steps).faithful, ?_⟩
  rw [poisoned_run]
  simp [start, StatusBoard.ofNames]

end Vigil

end CollisionWatch
