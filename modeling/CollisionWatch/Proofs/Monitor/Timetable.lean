import CollisionWatch.Monitor.Schedule
import Mathlib.Data.List.Induction
import Mathlib.Data.List.Nodup

/-!
# The timetable of a runner

Runners are added to a schedule at any time, and ticks call those that are due.  The state of a
runner is what its calls so far make of it (`MakesNew.runners_after`), so the next tick goes by the
last of them; the other runners have no part in it.  Main statements: the calls of a runner are a
function of its own interval and the ticks since it was added (`MakesNew.callsAt_eq_timetable`), and
this is how a watch calls its runners (`keepsTimetables`).
-/

namespace CollisionWatch.Schedule

variable {τ ι : Type}

/-- What is done with a schedule. -/
inductive Action (ι τ : Type) where
  /-- A runner is added. -/
  | add (name : String) (interval : ι)
  /-- The clock ticks. -/
  | tick (time : τ)

/-- The runners that are added, in order. -/
def added (actions : List (Action ι τ)) : List (String × ι) :=
  actions.filterMap fun
    | .add name interval => some (name, interval)
    | .tick _ => none

/-- The times of the ticks, in order. -/
def ticks (actions : List (Action ι τ)) : List τ :=
  actions.filterMap fun
    | .add _ _ => none
    | .tick time => some time

/-- New runners have their names and have not run yet. -/
structure MakesNew (make : String → ι → Scheduled τ) : Prop where
  /-- The name is the one asked for. -/
  name : ∀ name interval, (make name interval).name = name
  /-- No round is set. -/
  next : ∀ name interval, (make name interval).next = none
  /-- No round was made. -/
  rounds : ∀ name interval, (make name interval).rounds = 0

/-- A runner after calls at these times. -/
def called [Add τ] (runner : Scheduled τ) (calls : List τ) : Scheduled τ :=
  { runner with
    next := calls.getLast?.map (· + runner.interval), rounds := .ofNat calls.length }

/-- A runner that is added comes last. -/
theorem added_add (actions : List (Action ι τ)) (name : String) (interval : ι) :
    added (actions ++ [.add name interval]) = added actions ++ [(name, interval)] := by
  rw [added, List.filterMap_append]
  rfl

/-- A tick adds none. -/
theorem added_tick (actions : List (Action ι τ)) (time : τ) :
    added (actions ++ [.tick time]) = added actions := by
  rw [added, List.filterMap_append]
  exact List.append_nil _

/-- Adding a runner is no tick. -/
theorem ticks_add (actions : List (Action ι τ)) (name : String) (interval : ι) :
    ticks (actions ++ [.add name interval]) = ticks actions := by
  rw [ticks, List.filterMap_append]
  exact List.append_nil _

/-- A tick comes after the ones before it. -/
theorem ticks_tick (actions : List (Action ι τ)) (time : τ) :
    ticks (actions ++ [.tick time]) = ticks actions ++ [time] := by
  rw [ticks, List.filterMap_append]
  rfl

/-- A new runner was never called. -/
theorem MakesNew.called_nil [Add τ] {make : String → ι → Scheduled τ} (hnew : MakesNew make)
    (name : String) (interval : ι) : called (make name interval) [] = make name interval := by
  have hnext := hnew.next name interval
  have hrounds := hnew.rounds name interval
  generalize make name interval = runner at hnext hrounds
  cases runner
  subst hnext hrounds
  rfl

variable [Add τ] [Sub τ] [LT τ] [DecidableLT τ]

/-- The schedule after something is done with it. -/
def act (make : String → ι → Scheduled τ) (schedule : Schedule τ) : Action ι τ → Schedule τ
  | .add name interval => (schedule.add (make name interval)).1
  | .tick time => (schedule.tick time).1

/-- The schedule after what is done with it, from the start. -/
def after (make : String → ι → Scheduled τ) (actions : List (Action ι τ)) : Schedule τ :=
  actions.foldl (act make) {}

/-- The places of the runners that a tick runs, in order of registration. -/
def duePlaces (schedule : Schedule τ) (time : τ) : List Nat :=
  (List.range schedule.runners.length).filter fun place =>
    schedule.runners[place]?.any (·.isDue time)

/-- The calls that something leads to: the place of the runner, and the time. -/
def callsOf (schedule : Schedule τ) : Action ι τ → List (Nat × τ)
  | .add _ _ => []
  | .tick time => (schedule.duePlaces time).map (·, time)

/-- All calls, in order, from a schedule on. -/
def callsFrom (make : String → ι → Scheduled τ) : Schedule τ → List (Action ι τ) → List (Nat × τ)
  | _, [] => []
  | schedule, action :: rest =>
    schedule.callsOf action ++ callsFrom make (schedule.act make action) rest

/-- All calls, in order. -/
def calls (make : String → ι → Scheduled τ) (actions : List (Action ι τ)) : List (Nat × τ) :=
  callsFrom make {} actions

/-- The times at which the runner at a place is called. -/
def callsAt (make : String → ι → Scheduled τ) (place : Nat) (actions : List (Action ι τ)) :
    List τ :=
  ((calls make actions).filter (·.1 == place)).map (·.2)

/-- The call that a tick leads to, if any, of a runner that was called last then. -/
def callOn (interval slack : τ) (last : Option τ) (time : τ) : List τ :=
  if last.all fun t => !(slack < t + interval - time) then [time] else []

/-- After a call the next one has to wait for the interval, less the slack. -/
theorem callOn_some (interval slack last time : τ) :
    callOn interval slack (some last) time =
      if slack < last + interval - time then [] else [time] := by
  rw [callOn, Option.all_some]
  by_cases h : slack < last + interval - time
  · rw [if_pos h, decide_eq_true h]
    rfl
  · rw [if_neg h, decide_eq_false h]
    rfl

/-- The ticks that call a runner: each goes by the last call before it. -/
def timetable (interval slack : τ) (times : List τ) : List τ :=
  times.foldl (fun calls time => calls ++ callOn interval slack calls.getLast? time) []

/-! ## One runner -/

/-- One more tick, on a timetable. -/
theorem timetable_concat (interval slack : τ) (times : List τ) (time : τ) :
    timetable interval slack (times ++ [time]) = timetable interval slack times ++
      callOn interval slack (timetable interval slack times).getLast? time := by
  rw [timetable, List.foldl_append]
  rfl

/-- A tick that is a little early counts, one that is too early does not, and a late one puts off
the rounds after it. -/
example : timetable 10 1 ([0, 5, 9, 21, 29, 30] : List Int) = [0, 9, 21, 30] := rfl

/-- A runner is due if it was never called, or if its next round is no further away than its
slack. -/
theorem isDue_called_iff (runner : Scheduled τ) (calls : List τ) (time : τ) :
    (called runner calls).isDue time = true ↔
      ∀ last ∈ calls.getLast?, ¬ runner.slack < last + runner.interval - time := by
  rw [Scheduled.isDue, called]
  cases calls.getLast? with
  | none => exact iff_of_true rfl nofun
  | some last => simp

/-- Whether a runner is due depends on the last of its calls only. -/
theorem callOn_eq (runner : Scheduled τ) (calls : List τ) (time : τ) :
    callOn runner.interval runner.slack calls.getLast? time =
      if (called runner calls).isDue time then [time] else [] := by
  rw [callOn, Scheduled.isDue, called]
  cases calls.getLast? <;> rfl

/-- A tick is one more call or none. -/
theorem tick_called (runner : Scheduled τ) (calls : List τ) (time : τ) :
    (called runner calls).tick time =
      called runner (calls ++ callOn runner.interval runner.slack calls.getLast? time) := by
  rw [Scheduled.tick, callOn_eq]
  split
  · simp only [called, List.getLast?_concat, List.length_append, List.length_singleton,
      Option.map_some, UInt64.ofNat_add]
    rfl
  · rw [List.append_nil]

/-! ## One action more -/

section

variable {make : String → ι → Scheduled τ}

/-- What is done last is done with the schedule that is there by then. -/
theorem after_concat (actions : List (Action ι τ)) (action : Action ι τ) :
    after make (actions ++ [action]) = (after make actions).act make action := by
  rw [after, List.foldl_append]
  rfl

/-- What is done last adds the calls that it leads to. -/
theorem calls_concat (actions : List (Action ι τ)) (action : Action ι τ) :
    calls make (actions ++ [action]) =
      calls make actions ++ (after make actions).callsOf action := by
  have hfrom : ∀ schedule : Schedule τ, callsFrom make schedule (actions ++ [action]) =
      callsFrom make schedule actions ++ (actions.foldl (act make) schedule).callsOf action := by
    induction actions with
    | nil =>
      intro schedule
      exact List.append_nil _
    | cons first actions ih =>
      intro schedule
      rw [List.cons_append, callsFrom, callsFrom, ih, List.append_assoc, List.foldl_cons]
  exact hfrom {}

/-- Adding a runner calls nobody. -/
theorem calls_add (actions : List (Action ι τ)) (name : String) (interval : ι) :
    calls make (actions ++ [.add name interval]) = calls make actions := by
  rw [calls_concat]
  exact List.append_nil _

/-- Adding a runner calls none. -/
theorem callsAt_add (place : Nat) (actions : List (Action ι τ)) (name : String) (interval : ι) :
    callsAt make place (actions ++ [.add name interval]) = callsAt make place actions := by
  rw [callsAt, calls_add, callsAt]

omit [Add τ] in
/-- A place is due if the runner there is. -/
theorem mem_duePlaces {schedule : Schedule τ} {time : τ} {place : Nat} :
    place ∈ schedule.duePlaces time ↔ schedule.runners[place]?.any (·.isDue time) = true := by
  rw [duePlaces, List.mem_filter, List.mem_range]
  refine and_iff_right_of_imp fun hdue => ?_
  obtain ⟨runner, hrunner, -⟩ := Option.any_eq_true _ _ |>.1 hdue
  exact (List.getElem?_eq_some_iff.1 hrunner).1

omit [Add τ] in
/-- Places are due in their order. -/
theorem pairwise_duePlaces (schedule : Schedule τ) (time : τ) :
    (schedule.duePlaces time).Pairwise (· < ·) :=
  List.pairwise_lt_range.filter _

/-- A tick calls the runner at a place once if it is due, and else not at all. -/
theorem callsAt_tick (place : Nat) (actions : List (Action ι τ)) (time : τ) :
    callsAt make place (actions ++ [.tick time]) = callsAt make place actions ++
      if (after make actions).runners[place]?.any (·.isDue time) then [time] else [] := by
  have hnodup : ((after make actions).duePlaces time).Nodup :=
    (pairwise_duePlaces _ time).imp Nat.ne_of_lt
  have hplace : (((after make actions).duePlaces time).map (·, time)).filter (·.1 == place) =
      (((after make actions).duePlaces time).filter (· == place)).map (·, time) :=
    List.filter_map ..
  rw [callsAt, calls_concat, List.filter_append, List.map_append, callsOf, hplace, List.filter_beq,
    hnodup.count, ← callsAt]
  simp only [mem_duePlaces]
  split <;> rfl

/-- A schedule has as many runners as were added. -/
theorem length_runners_after (actions : List (Action ι τ)) :
    (after make actions).runners.length = (added actions).length := by
  induction actions using List.reverseRecOn with
  | nil => rfl
  | append_singleton actions action ih =>
    rw [after_concat]
    cases action with
    | add name interval =>
      rw [added_add, act, add, List.length_append, List.length_append, ih]
      rfl
    | tick time => rw [added_tick, act, length_tick, ih]

/-- A runner is not called before it is added. -/
theorem callsAt_eq_nil {actions : List (Action ι τ)} {place : Nat}
    (h : (added actions).length ≤ place) : callsAt make place actions = [] := by
  induction actions using List.reverseRecOn with
  | nil => rfl
  | append_singleton actions action ih =>
    cases action with
    | add name interval =>
      rw [added_add, List.length_append] at h
      rw [callsAt_add, ih (Nat.le_of_add_right_le h)]
    | tick time =>
      rw [added_tick] at h
      have hnone : (after make actions).runners[place]? = none :=
        List.getElem?_eq_none (Nat.le_trans (Nat.le_of_eq (length_runners_after actions)) h)
      rw [callsAt_tick, ih h, hnone]
      rfl

/-- **The state of a runner is what its calls make of it.** -/
theorem MakesNew.runners_after (hnew : MakesNew make) (actions : List (Action ι τ)) (place : Nat) :
    (after make actions).runners[place]? =
      (added actions)[place]?.map fun (name, interval) =>
        called (make name interval) (callsAt make place actions) := by
  induction actions using List.reverseRecOn with
  | nil => rfl
  | append_singleton actions action ih =>
    rw [after_concat]
    cases action with
    | add name interval =>
      rw [added_add, callsAt_add, act, add, List.getElem?_append, List.getElem?_append, ih,
        length_runners_after]
      split
      · rfl
      · rename_i hplace
        rw [callsAt_eq_nil (Nat.not_lt.1 hplace)]
        cases place - (added actions).length with
        | zero => exact congrArg some (hnew.called_nil name interval).symm
        | succ k => rfl
    | tick time =>
      rw [added_tick, callsAt_tick, act, tick, List.getElem?_map, ih]
      cases (added actions)[place]? with
      | none => rfl
      | some entry =>
        simp only [Option.map_some, Option.any_some, tick_called, callOn_eq]

/-- **A tick calls a runner by its own interval and its last call only.** -/
theorem MakesNew.callsAt_tick (hnew : MakesNew make) {actions : List (Action ι τ)} {place : Nat}
    {name : String} {interval : ι} (h : (added actions)[place]? = some (name, interval))
    (time : τ) :
    callsAt make place (actions ++ [.tick time]) = callsAt make place actions ++
      callOn (make name interval).interval (make name interval).slack
        (callsAt make place actions).getLast? time := by
  rw [Schedule.callsAt_tick, hnew.runners_after, h, callOn_eq]
  rfl

/-- **The calls of a runner are its timetable**: they depend on its interval and the ticks since it
was added. -/
theorem MakesNew.callsAt_eq_timetable (hnew : MakesNew make) (before : List (Action ι τ))
    (name : String) (interval : ι) (later : List (Action ι τ)) :
    callsAt make (added before).length (before ++ .add name interval :: later) =
      timetable (make name interval).interval (make name interval).slack (ticks later) := by
  have hfront : ∀ later : List (Action ι τ),
      before ++ .add name interval :: later = (before ++ [.add name interval]) ++ later := by
    intro later
    rw [List.append_assoc, List.singleton_append]
  rw [hfront]
  induction later using List.reverseRecOn with
  | nil =>
    rw [List.append_nil, callsAt_add, callsAt_eq_nil (Nat.le_refl _)]
    rfl
  | append_singleton later action ih =>
    rw [← List.append_assoc]
    cases action with
    | add other interval' => rw [callsAt_add, ticks_add, ih]
    | tick time =>
      have hplace : (added ((before ++ [.add name interval]) ++ later))[(added before).length]? =
          some (name, interval) := by
        rw [← hfront, added, List.filterMap_append, ← added,
          List.getElem?_append_right (Nat.le_refl _), Nat.sub_self]
        rfl
      rw [hnew.callsAt_tick hplace, ticks_tick, timetable_concat, ih]

omit [Add τ] in
/-- The runners that a tick runs, by their places. -/
theorem filterMap_duePlaces (schedule : Schedule τ) (time : τ) :
    (schedule.duePlaces time).filterMap (schedule.runners[·]?) = schedule.due time := by
  have hall : ∀ runners : List (Scheduled τ),
      (List.range runners.length).filterMap (runners[·]?) = runners := by
    intro runners
    induction runners with
    | nil => rfl
    | cons runner runners ih =>
      rw [List.length_cons, List.range_succ_eq_map, List.filterMap_cons, List.filterMap_map]
      exact congrArg (runner :: ·) ih
  conv_rhs => rw [due, ← hall schedule.runners, List.filter_filterMap]
  rw [duePlaces, List.filterMap_filter]
  congr 1
  funext place
  cases schedule.runners[place]? <;> rfl

/-- The rounds of a runner are its calls. -/
theorem MakesNew.rounds?_after (hnew : MakesNew make) (actions : List (Action ι τ))
    (name : String) :
    (after make actions).rounds? name =
      ((added actions).findIdx? (·.1 == name)).map fun place =>
        .ofNat (callsAt make place actions).length := by
  have hnames : (after make actions).runners.map (·.name) = (added actions).map (·.1) := by
    apply List.ext_getElem?
    intro place
    rw [List.getElem?_map, List.getElem?_map, hnew.runners_after, Option.map_map]
    refine congrArg (Option.map · _) (funext fun entry => ?_)
    exact hnew.name entry.1 entry.2
  have hindex : (after make actions).runners.findIdx? (·.name == name) =
      (added actions).findIdx? (·.1 == name) := by
    have := congrArg (List.findIdx? (· == name)) hnames
    rwa [List.findIdx?_map, List.findIdx?_map] at this
  rw [rounds?, List.find?_eq_bind_findIdx?_getElem?, hindex]
  cases hplace : (added actions).findIdx? (·.1 == name) with
  | none => rfl
  | some place =>
    obtain ⟨hlt, -⟩ := List.findIdx?_eq_some_iff_findIdx_eq.1 hplace
    rw [Option.bind_some, hnew.runners_after, List.getElem?_eq_getElem hlt]
    rfl

/-- The runners that a tick runs are those whose last call is long enough ago. -/
theorem MakesNew.mem_duePlaces_iff (hnew : MakesNew make) (actions : List (Action ι τ)) (time : τ)
    (place : Nat) :
    place ∈ (after make actions).duePlaces time ↔
      ∃ name interval, (added actions)[place]? = some (name, interval) ∧
        ∀ last ∈ (callsAt make place actions).getLast?,
          ¬ (make name interval).slack < last + (make name interval).interval - time := by
  rw [mem_duePlaces, hnew.runners_after]
  cases (added actions)[place]? with
  | none => simp
  | some entry =>
    obtain ⟨name, interval⟩ := entry
    rw [Option.map_some, Option.any_some, isDue_called_iff]
    simp

/-- A tick tells how many runners it ran. -/
theorem tick_snd (schedule : Schedule τ) (time : τ) :
    (schedule.tick time).2 = (schedule.duePlaces time).length := by
  have hdue : (schedule.tick time).2 = (schedule.due time).length := List.countP_eq_length_filter
  rw [hdue, ← filterMap_duePlaces, List.filterMap_length_eq_length]
  intro place hplace
  obtain ⟨runner, hrunner, -⟩ := Option.any_eq_true _ _ |>.1 (mem_duePlaces.1 hplace)
  exact Option.isSome_of_eq_some hrunner

end

/-! ## The runners of a watch -/

/-- The runners of a watch are new. -/
theorem makesNew_every : MakesNew Scheduled.every where
  name _ _ := rfl
  next _ _ := rfl
  rounds _ _ := rfl

/-- How a watch calls its runners, whatever was done with its schedule. -/
structure KeepsTimetables (actions : List (Action Duration Float)) : Prop where
  /-- Adding a runner calls nobody. -/
  add : ∀ name interval,
    calls Scheduled.every (actions ++ [.add name interval]) = calls Scheduled.every actions
  /-- A tick calls the runners that are due, each of them once and in the order of their
  registration, and it tells their number.  A runner is due unless the interval after its last call
  ends more than a tenth of it later. -/
  tick : ∀ time, ∃ places : List Nat,
    calls Scheduled.every (actions ++ [.tick time]) =
        calls Scheduled.every actions ++ places.map (·, time) ∧
      places.Pairwise (· < ·) ∧
      (∀ place, place ∈ places ↔ ∃ name interval,
        (added actions)[place]? = some (name, interval) ∧
          ∀ last ∈ (callsAt Scheduled.every place actions).getLast?,
            ¬ interval.toSeconds * 0.1 < last + interval.toSeconds - time) ∧
      places.filterMap ((after Scheduled.every actions).runners[·]?) =
        (after Scheduled.every actions).due time ∧
      ((after Scheduled.every actions).tick time).2 = places.length
  /-- The rounds of a name are the calls of the first runner of that name. -/
  rounds : ∀ name, (after Scheduled.every actions).rounds? name =
    ((added actions).findIdx? (·.1 == name)).map fun place =>
      .ofNat (callsAt Scheduled.every place actions).length
  /-- The calls of a runner are made by its interval and the ticks since it was added. -/
  timetable : ∀ before name interval later, actions = before ++ .add name interval :: later →
    callsAt Scheduled.every (added before).length actions =
      timetable interval.toSeconds (interval.toSeconds * 0.1) (ticks later)
  /-- Whatever other runners there are, the same ticks call a runner. -/
  alone : ∀ before name interval later, actions = before ++ .add name interval :: later →
    ∀ before' later', ticks later' = ticks later →
      callsAt Scheduled.every (added before').length (before' ++ .add name interval :: later') =
        callsAt Scheduled.every (added before).length actions

/-- **Runners are called by the clock and their own intervals.** -/
theorem keepsTimetables (actions : List (Action Duration Float)) : KeepsTimetables actions where
  add := calls_add actions
  tick time := by
    refine ⟨(after Scheduled.every actions).duePlaces time, calls_concat actions (.tick time),
      pairwise_duePlaces _ time, ?_, filterMap_duePlaces _ time, tick_snd _ time⟩
    exact makesNew_every.mem_duePlaces_iff actions time
  rounds := makesNew_every.rounds?_after actions
  timetable before name interval later h := by
    rw [h, makesNew_every.callsAt_eq_timetable]
    rfl
  alone before name interval later h before' later' hticks := by
    rw [h, makesNew_every.callsAt_eq_timetable, makesNew_every.callsAt_eq_timetable, hticks]

/-- A runner that is added among others, with a tick that is too early by a hair, is called as it
would be without them. -/
theorem keepsTimetables_among_others :
    callsAt Scheduled.every 1 ([.add "lidar" .tenthOfSecond, .tick 0] ++
        .add "brake" .tenthOfSecond :: [.tick 0.5, .tick 0.59, .tick 0.595]) = [0.5, 0.595] ∧
      callsAt Scheduled.every 0 ([] ++
        .add "brake" .tenthOfSecond ::
          [.tick 0.5, .add "radar" .tenthOfSecond, .tick 0.59, .tick 0.595]) = [0.5, 0.595] := by
  have hamong : callsAt Scheduled.every 1 ([.add "lidar" .tenthOfSecond, .tick 0] ++
      .add "brake" .tenthOfSecond :: [.tick 0.5, .tick 0.59, .tick 0.595]) = [0.5, 0.595] := by
    decide +kernel
  refine ⟨hamong, Eq.trans ?_ hamong⟩
  exact (keepsTimetables _).alone [.add "lidar" .tenthOfSecond, .tick 0] "brake" .tenthOfSecond
    [.tick 0.5, .tick 0.59, .tick 0.595] rfl []
    [.tick 0.5, .add "radar" .tenthOfSecond, .tick 0.59, .tick 0.595] rfl

end CollisionWatch.Schedule
