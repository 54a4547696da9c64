import CollisionWatch.Proofs.Difference
import CollisionWatch.Proofs.FrameTree.Retention

/-!
# What a link answers at a time

Between the first and the last stamp of a history in order there is one place only where a sample
not after a time stands before one after it (`IsBracket.unique`), and a scan from the oldest sample
onwards stops there (`IsBracket.bracket?_eq`). The binary search finds the same place
(`History.IsOrdered.isBracket_boundary`). So what a history answers can be said without the search
(`Answers`): the motion between the two samples there, the nearest end if the time is outside and
within the tolerance, and nothing otherwise.

This holds for every link that is reached by telling motions to a tree and changing its settings, in
any order, as long as the stamps that are told on this link are numbers
(`FrameTree.at?_answers`).
-/

namespace CollisionWatch

open Double (IsNumber)

variable {T : Type}

/-! ## The samples on either side of a time -/

/-- The samples at the places `i` and `i + 1` are the last one up to a time and the next one. -/
structure IsBracket (samples : List (Sample T)) (time : Float) (i : Nat) (before after : Sample T) :
    Prop where
  /-- The one sample stands at the place. -/
  getElem?_before : samples[i]? = some before
  /-- The other one stands behind it. -/
  getElem?_after : samples[i + 1]? = some after
  /-- The one sample is not after the time. -/
  before_le : before.stamp ≤ time
  /-- The other one is. -/
  lt_after : time < after.stamp

/-- The first two neighbours on either side of a time. -/
def bracket? (time : Float) : List (Sample T) → Option (Sample T × Sample T)
  | before :: after :: rest =>
    if before.stamp ≤ time ∧ time < after.stamp then some (before, after)
    else bracket? time (after :: rest)
  | _ => none

/-- A scan stops at two neighbours on either side of the time if there are any. -/
theorem IsBracket.exists_bracket?_eq {samples : List (Sample T)} {time : Float} {i : Nat}
    {before after : Sample T} (h : IsBracket samples time i before after) :
    ∃ j b a, IsBracket samples time j b a ∧ bracket? time samples = some (b, a) := by
  induction samples generalizing i with
  | nil => exact absurd h.getElem?_before (by simp)
  | cons first rest ih =>
    cases rest with
    | nil => exact absurd h.getElem?_after (by simp)
    | cons second others =>
      by_cases hhere : first.stamp ≤ time ∧ time < second.stamp
      · exact ⟨0, first, second, ⟨rfl, rfl, hhere.1, hhere.2⟩, by rw [bracket?, if_pos hhere]⟩
      · cases i with
        | zero =>
          obtain rfl : first = before := Option.some.inj h.getElem?_before
          obtain rfl : second = after := Option.some.inj h.getElem?_after
          exact absurd ⟨h.before_le, h.lt_after⟩ hhere
        | succ i =>
          obtain ⟨j, b, a, hj, hscan⟩ :=
            ih ⟨h.getElem?_before, h.getElem?_after, h.before_le, h.lt_after⟩
          refine ⟨j + 1, b, a, ⟨hj.getElem?_before, hj.getElem?_after, hj.before_le, hj.lt_after⟩,
            ?_⟩
          rw [bracket?, if_neg hhere, hscan]

section sorted

variable {samples : List (Sample T)} {time : Float} {i j : Nat} {before after b a : Sample T}
  (hsorted : samples.Pairwise fun a b => a.stamp ≤ b.stamp)

include hsorted

/-- Where stamps do not descend no bracket lies before another one. -/
theorem IsBracket.not_lt (hi : IsBracket samples time i before after)
    (hj : IsBracket samples time j b a) : ¬ i < j := by
  intro hij
  obtain ⟨hafter, hi'⟩ := List.getElem?_eq_some_iff.1 hi.getElem?_after
  obtain ⟨hb, hj'⟩ := List.getElem?_eq_some_iff.1 hj.getElem?_before
  have hle : after.stamp ≤ time := by
    rcases Nat.lt_or_ge (i + 1) j with hlt | hge
    · have hstamps := List.pairwise_iff_getElem.1 hsorted (i + 1) j hafter hb hlt
      rw [hi', hj'] at hstamps
      exact Double.le_trans hstamps hj.before_le
    · obtain rfl : i + 1 = j := by omega
      obtain rfl : after = b := hi'.symm.trans hj'
      exact hj.before_le
  exact Double.not_le_of_lt hi.lt_after hle

/-- **There is one bracket at most.** -/
theorem IsBracket.unique (hi : IsBracket samples time i before after)
    (hj : IsBracket samples time j b a) : j = i ∧ b = before ∧ a = after := by
  obtain rfl : j = i :=
    Nat.le_antisymm (Nat.not_lt.1 (hi.not_lt hsorted hj)) (Nat.not_lt.1 (hj.not_lt hsorted hi))
  exact ⟨rfl, Option.some.inj (hj.getElem?_before.symm.trans hi.getElem?_before),
    Option.some.inj (hj.getElem?_after.symm.trans hi.getElem?_after)⟩

/-- The scan finds the bracket. -/
theorem IsBracket.bracket?_eq (h : IsBracket samples time i before after) :
    bracket? time samples = some (before, after) := by
  obtain ⟨j, b, a, hj, hscan⟩ := h.exists_bracket?_eq
  obtain ⟨-, rfl, rfl⟩ := h.unique hsorted hj
  exact hscan

end sorted

/-! ## Answers -/

/-- What samples in order answer at a time, `first` and `last` being those at the ends. -/
structure Answers [Motion T] (samples : List (Sample T)) (first last : Sample T)
    (time tolerance : Float) (answer : Option T) : Prop where
  /-- The first sample stands at the start. -/
  head?_eq : samples.head? = some first
  /-- The last sample stands at the end. -/
  getLast?_eq : samples.getLast? = some last
  /-- A time that is not finite has no motion. -/
  unreal : time.isFinite = false → answer = none
  /-- A finite time is before the first sample and near it, or after the last one and near it, or
  further outside, or inside. -/
  somewhere : time.isFinite = true →
    (time ≤ first.stamp ∧ first.stamp - time ≤ tolerance) ∨
    (first.stamp < time ∧ last.stamp ≤ time ∧ time - last.stamp ≤ tolerance) ∨
    ((time < first.stamp ∧ tolerance < first.stamp - time) ∨
      (last.stamp < time ∧ tolerance < time - last.stamp)) ∨
    (first.stamp < time ∧ time < last.stamp)
  /-- Up to the first sample and near it, that one stands in. -/
  early : time.isFinite = true → time ≤ first.stamp → first.stamp - time ≤ tolerance →
    answer = some first.motion
  /-- From the last sample on and near it, that one stands in. -/
  late : time.isFinite = true → first.stamp < time → last.stamp ≤ time →
    time - last.stamp ≤ tolerance → answer = some last.motion
  /-- Further outside there is no motion. -/
  outside : time.isFinite = true →
    (time < first.stamp ∧ tolerance < first.stamp - time) ∨
      (last.stamp < time ∧ tolerance < time - last.stamp) → answer = none
  /-- Inside there is one bracket, which the scan finds, and the motion comes from it. -/
  inside : time.isFinite = true → first.stamp < time → time < last.stamp →
    ∃ i before after, IsBracket samples time i before after ∧
      (∀ j b a, IsBracket samples time j b a → j = i) ∧
      bracket? time samples = some (before, after) ∧
      answer = some (if after.stamp - before.stamp ≤ doubleEpsilon then after.motion
        else Motion.blend before.motion after.motion
          (Decimal.narrow ((time - before.stamp) / (after.stamp - before.stamp))))

/-- A finite time is before, after or between two stamps that are numbers; nearer or further. -/
theorem outside_or_inside {first last time tolerance : Float} (hfirst : IsNumber first)
    (hlast : IsNumber last) (hfinite : time.isFinite = true) (htolerance : 0 ≤ tolerance) :
    (time ≤ first ∧ first - time ≤ tolerance) ∨
    (first < time ∧ last ≤ time ∧ time - last ≤ tolerance) ∨
    ((time < first ∧ tolerance < first - time) ∨ (last < time ∧ tolerance < time - last)) ∨
    (first < time ∧ time < last) := by
  have htime : IsNumber time := Double.isNumber_of_isFinite hfinite
  have hbound : IsNumber tolerance := (Double.isNumber_of_le htolerance).2
  by_cases hearly : time ≤ first
  · by_cases hnear : first - time ≤ tolerance
    · exact .inl ⟨hearly, hnear⟩
    · have hbefore : time < first := (Double.not_le_iff hfirst htime).1 fun hle =>
        hnear (Double.sub_le (.inr hfinite) hle hearly htolerance)
      have hfar := Double.isNumber_sub (.inr hfinite) hfirst htime
      exact .inr (.inr (.inl (.inl ⟨hbefore, (Double.not_le_iff hfar hbound).1 hnear⟩)))
  · have hfirst' := (Double.not_le_iff htime hfirst).1 hearly
    by_cases hlate : last ≤ time
    · by_cases hnear : time - last ≤ tolerance
      · exact .inr (.inl ⟨hfirst', hlate, hnear⟩)
      · have hafter : last < time := (Double.not_le_iff htime hlast).1 fun hle =>
          hnear (Double.sub_le (.inl hfinite) hle hlate htolerance)
        have hfar := Double.isNumber_sub (.inl hfinite) htime hlast
        exact .inr (.inr (.inl (.inr ⟨hafter, (Double.not_le_iff hfar hbound).1 hnear⟩)))
    · exact .inr (.inr (.inr ⟨hfirst', (Double.not_le_iff hlast htime).1 hlate⟩))

namespace History

section ends

variable [Motion T] {h : History T} {first last : Sample T} {time : Float}
  (hfirst : h.samples.head? = some first) (hlast : h.samples.getLast? = some last)
  (hfinite : time.isFinite = true) (tolerance : Float)

include hfirst hlast hfinite

/-- Up to the first sample that one stands in. -/
theorem at?_of_le (hle : time ≤ first.stamp) :
    h.at? time tolerance = .ok (first.within (first.stamp - time) tolerance) := by
  rw [at?, hfinite, Bool.not_true, if_neg Bool.false_ne_true, hfirst, hlast]
  dsimp only
  rw [if_pos hle]

/-- From the last sample on that one stands in. -/
theorem at?_of_last_le (hnot : ¬ time ≤ first.stamp) (hle : last.stamp ≤ time) :
    h.at? time tolerance = .ok (last.within (time - last.stamp) tolerance) := by
  rw [at?, hfinite, Bool.not_true, if_neg Bool.false_ne_true, hfirst, hlast]
  dsimp only
  rw [if_neg hnot, if_pos hle]

/-- Between two samples the motion comes from both. -/
theorem at?_of_isBracket {i : Nat} {before after : Sample T} (hnot : ¬ time ≤ first.stamp)
    (hnot' : ¬ last.stamp ≤ time) (hboundary : h.boundary (·.stamp ≤ time) = i + 1)
    (hbracket : IsBracket h.samples time i before after) :
    h.at? time tolerance = .ok (some (before.between after time)) := by
  rw [at?, hfinite, Bool.not_true, if_neg Bool.false_ne_true, hfirst, hlast]
  dsimp only
  rw [if_neg hnot, if_neg hnot', hboundary]
  dsimp only
  rw [hbracket.getElem?_before, hbracket.getElem?_after]

end ends

namespace IsOrdered

variable {h : History T} (hh : h.IsOrdered) {first last : Sample T} {time : Float}

include hh

/-- The first sample is not after any other. -/
theorem first_le (hfirst : h.samples.head? = some first) {s : Sample T} (hs : s ∈ h.samples) :
    first.stamp ≤ s.stamp := by
  obtain ⟨rest, hsamples⟩ := List.head?_eq_some_iff.1 hfirst
  have hmem : s ∈ first :: rest := hsamples ▸ hs
  rcases List.mem_cons.1 hmem with rfl | hmem
  · exact Double.le_refl (hh.numbers s hs)
  · have hsorted := hh.sorted
    rw [hsamples] at hsorted
    exact List.rel_of_pairwise_cons hsorted hmem

/-- The search finds the bracket of a time that is inside. -/
theorem isBracket_boundary (hfirst : h.samples.head? = some first)
    (hlast : h.samples.getLast? = some last) (hafter : first.stamp < time)
    (hbefore : time < last.stamp) :
    ∃ i before after, h.boundary (·.stamp ≤ time) = i + 1 ∧
      IsBracket h.samples time i before after := by
  have htime : IsNumber time := (Double.isNumber_of_lt hafter).2
  obtain ⟨i, hi, hlt⟩ := h.exists_boundary_eq_succ (p := fun s => s.stamp ≤ time)
    (by simpa [hfirst] using Double.le_of_lt hafter)
    (by simpa [hlast] using Double.not_le_of_lt hbefore)
  have hboundary := h.isBoundary_boundary fun s => s.stamp ≤ time
  rw [hi] at hboundary
  have hbefore_eq := List.getElem?_eq_getElem (Nat.lt_of_succ_lt hlt)
  have hafter_eq := List.getElem?_eq_getElem hlt
  have hle := hboundary.before i rfl
  have hnot := hboundary.after
  rw [hbefore_eq, Option.any_some] at hle
  rw [hafter_eq, Option.any_some] at hnot
  refine ⟨i, _, _, hi, hbefore_eq, hafter_eq, of_decide_eq_true hle, ?_⟩
  exact (Double.not_le_iff (hh.numbers _ (List.getElem_mem hlt)) htime).1 (of_decide_eq_false hnot)

/-- **A history in order answers as a scan does.** -/
theorem answers [Motion T] (hsome : h.samples ≠ []) (time : Float) {tolerance : Float}
    (htolerance : 0 ≤ tolerance) :
    ∃ first last answer, h.at? time tolerance = .ok answer ∧
      Answers h.samples first last time tolerance answer := by
  have hfirst := List.head?_eq_some_head hsome
  have hlast := List.getLast?_eq_some_getLast hsome
  obtain ⟨answer, hanswer⟩ := hh.numbers.startsWithNumber.exists_at?_eq_ok time tolerance
  have hfirst_le_last := hh.first_le hfirst (List.mem_of_getLast? hlast)
  generalize h.samples.head hsome = first at *
  generalize h.samples.getLast hsome = last at *
  have hanswer_eq : ∀ {found}, h.at? time tolerance = .ok found → answer = found :=
    fun hfound => Except.ok.inj (hanswer.symm.trans hfound)
  have hstart := hh.numbers first (List.mem_of_head? hfirst)
  have hend := hh.numbers last (List.mem_of_getLast? hlast)
  refine ⟨first, last, answer, hanswer, hfirst, hlast, fun hinfinite => ?_,
    fun hfinite => outside_or_inside hstart hend hfinite htolerance, fun hfinite hle hnear => ?_,
    fun hfinite hlt hle hnear => ?_, fun hfinite hfar => ?_, fun hfinite hlt hlt' => ?_⟩
  · refine hanswer_eq ?_
    rw [at?, hinfinite]
    rfl
  · rw [hanswer_eq (at?_of_le hfirst hlast hfinite tolerance hle), Sample.within, if_pos hnear]
  · rw [hanswer_eq (at?_of_last_le hfirst hlast hfinite tolerance (Double.not_le_of_lt hlt) hle),
      Sample.within, if_pos hnear]
  · rcases hfar with ⟨hlt, hfar⟩ | ⟨hlt, hfar⟩
    · rw [hanswer_eq (at?_of_le hfirst hlast hfinite tolerance (Double.le_of_lt hlt)),
        Sample.within, if_neg (Double.not_le_of_lt hfar)]
    · have hnot : ¬ time ≤ first.stamp := fun hle =>
        Double.not_le_of_lt hlt (Double.le_trans hle hfirst_le_last)
      rw [hanswer_eq (at?_of_last_le hfirst hlast hfinite tolerance hnot (Double.le_of_lt hlt)),
        Sample.within, if_neg (Double.not_le_of_lt hfar)]
  · obtain ⟨i, before, after, hboundary, hbracket⟩ :=
      hh.isBracket_boundary hfirst hlast hlt hlt'
    refine ⟨i, before, after, hbracket, fun j b a hj => (hbracket.unique hh.sorted hj).1,
      hbracket.bracket?_eq hh.sorted, ?_⟩
    exact hanswer_eq (at?_of_isBracket hfirst hlast hfinite tolerance (Double.not_le_of_lt hlt)
      (Double.not_le_of_lt hlt') hboundary hbracket)

end IsOrdered

end History

/-! ## Every link that can be reached -/

/-- What can be done to a tree. -/
inductive Command (T : Type) where
  /-- A motion is told. -/
  | tell (report : Report T)
  /-- The tolerance is set. -/
  | withTolerance (seconds : Float)
  /-- The length of the histories is set. -/
  | withHistory (length : Nat)

/-- What is told on the link from `u` to `v` is stamped with a number, if it is stamped. -/
def Command.NumberedOn (u v : String) : Command T → Prop
  | .tell report => report.IsOn u v → ∀ stamp, report.stamp? = some stamp → IsNumber stamp
  | _ => True

namespace FrameTree

/-- The tree after a command. -/
def obey (tree : FrameTree T) : Command T → FrameTree T
  | .tell report => tree.tell report
  | .withTolerance seconds => tree.withTolerance seconds
  | .withHistory length => tree.withHistory length

/-- The tree after some commands, from one without links on. -/
def after (commands : List (Command T)) : FrameTree T := commands.foldl obey {}

/-- What every command keeps holds of every tree that is reached. -/
theorem after_induction {P : FrameTree T → Prop} {commands : List (Command T)} (hnew : P {})
    (hobey : ∀ tree, P tree → ∀ command ∈ commands, P (tree.obey command)) :
    P (after commands) :=
  List.foldlRecOn (motive := P) commands obey hnew hobey

/-- A tree that is reached was built by the operations on trees. -/
theorem built_after (commands : List (Command T)) : (after commands).Built fun _ => True := by
  refine after_induction .new fun tree htree command _ => ?_
  cases command with
  | tell report => exact htree.tell report
  | withTolerance seconds => exact htree.withTolerance seconds
  | withHistory length => exact htree.withHistory length

/-- The tolerance is a number that is not negative. -/
theorem Built.tolerance_nonneg {allowed : Float → Prop} {tree : FrameTree T}
    (h : tree.Built allowed) : 0 ≤ tree.tolerance := by
  induction h with
  | new => exact show (0 : Float) ≤ 0.1 by decide +kernel
  | withTolerance seconds _ ih =>
    show 0 ≤ if 0 < seconds then seconds else 0
    split
    · exact Double.le_of_lt ‹_›
    · decide +kernel
  | withHistory length _ ih => exact ih
  | setFixed parent child motion _ ih => exact ih
  | record parent child motion _ _ ih => exact ih

/-- If the link from `u` to `v` has a history, that can be sampled. -/
structure IsSampled (tree : FrameTree T) (u v : String) : Prop where
  /-- A link keeps one sample at least. -/
  historyLength_pos : 0 < tree.historyLength
  /-- The history is in order. -/
  isOrdered : ∀ history, tree.link? u v = some (.recorded history) → history.IsOrdered
  /-- There is a sample. -/
  ne_nil : ∀ history, tree.link? u v = some (.recorded history) → history.samples ≠ []

variable {u v : String} {tree : FrameTree T}

/-- What a new sample is recorded among is in order. -/
theorem IsSampled.isOrdered_getD (h : tree.IsSampled u v) :
    (((tree.link? u v).map Link.history).getD {}).IsOrdered := by
  cases hlink : tree.link? u v with
  | none => exact History.isOrdered_empty
  | some link =>
    cases link with
    | fixed motion => exact History.isOrdered_empty
    | recorded history => exact h.isOrdered history hlink

/-- A report that is stamped with a number, if at all, leaves the history in order. -/
theorem IsSampled.tell (h : tree.IsSampled u v) {report : Report T}
    (hreport : report.IsOn u v → ∀ stamp, report.stamp? = some stamp → IsNumber stamp) :
    (tree.tell report).IsSampled u v := by
  have hlink : ∀ history, (tree.tell report).link? u v = some (.recorded history) →
      history.IsOrdered ∧ history.samples ≠ [] := by
    intro history hlink
    obtain ⟨stamp, hon, hstamp, rfl⟩ | ⟨-, hlink⟩ := recorded_of_tell hlink
    · have hold := h.isOrdered_getD
      refine ⟨hold.record _ (hreport hon stamp hstamp) _, List.ne_nil_of_length_pos ?_⟩
      rw [hold.length_record]
      exact Nat.lt_min.2 ⟨Nat.succ_pos _, h.historyLength_pos⟩
    · exact ⟨h.isOrdered history hlink, h.ne_nil history hlink⟩
  exact {
    historyLength_pos := tree.historyLength_tell report ▸ h.historyLength_pos
    isOrdered := fun history heq => (hlink history heq).1
    ne_nil := fun history heq => (hlink history heq).2 }

/-- A command leaves the history in order. -/
theorem IsSampled.obey (h : tree.IsSampled u v) {command : Command T}
    (hcommand : command.NumberedOn u v) : (tree.obey command).IsSampled u v := by
  cases command with
  | tell report => exact h.tell hcommand
  | withTolerance seconds => exact ⟨h.historyLength_pos, h.isOrdered, h.ne_nil⟩
  | withHistory length =>
    have hpos := Nat.lt_of_lt_of_le Nat.one_pos (Nat.le_max_right length 1)
    exact ⟨hpos, h.isOrdered, h.ne_nil⟩

/-- **Every history that is reached can be sampled**, if what is told on the link is stamped with
numbers. -/
theorem isSampled_after {commands : List (Command T)}
    (hcommands : ∀ command ∈ commands, command.NumberedOn u v) : (after commands).IsSampled u v := by
  have hnew : IsSampled ({} : FrameTree T) u v := ⟨Nat.succ_pos 99, nofun, nofun⟩
  exact after_induction (P := fun tree => tree.IsSampled u v) hnew fun _ htree command hmem =>
    htree.obey (hcommands command hmem)

/-- **A link with a history answers as a scan of its samples does, and a fixed one always with its
motion**, whatever has been told to the tree and however it has been set. -/
theorem at?_answers [Motion T] {commands : List (Command T)}
    (hcommands : ∀ command ∈ commands, command.NumberedOn u v) (time : Float) :
    (∀ history, (after commands).link? u v = some (.recorded history) →
      ∃ first last answer,
        (Link.recorded history).at? time (after commands).tolerance = .ok answer ∧
          Answers history.samples first last time (after commands).tolerance answer) ∧
      ∀ motion, (after commands).link? u v = some (.fixed motion) →
        (Link.fixed motion).at? time (after commands).tolerance = .ok (some motion) := by
  have hsampled := isSampled_after hcommands
  refine ⟨fun history hlink => ?_, fun motion _ => rfl⟩
  exact (hsampled.isOrdered history hlink).answers (hsampled.ne_nil history hlink) time
    (built_after commands).tolerance_nonneg

/-- A tree that keeps three samples is told two, the later one first. -/
def twoScans : List (Command (Pose Float32)) :=
  [.withHistory 3, .tell ⟨"map", "lidar", some 2, .identity⟩,
    .tell ⟨"map", "lidar", some 1, .identity⟩]

/-- The link they are told on can be sampled between them. -/
theorem at?_answers_twoScans :
    ∃ history first last answer,
      (after twoScans).link? "map" "lidar" = some (.recorded history) ∧
        (Link.recorded history).at? 1.5 (after twoScans).tolerance = .ok answer ∧
          Answers history.samples first last 1.5 (after twoScans).tolerance answer := by
  have hnumbered : ∀ command ∈ twoScans, command.NumberedOn "map" "lidar" := by
    intro command hcommand
    simp only [twoScans, List.mem_cons, List.not_mem_nil, or_false] at hcommand
    rcases hcommand with rfl | rfl | rfl
    · trivial
    · rintro - stamp ⟨⟩
      decide +kernel
    · rintro - stamp ⟨⟩
      decide +kernel
  have hlink : (after twoScans).link? "map" "lidar" = some (.recorded
      ((({} : History (Pose Float32)).record 3 2 .identity).record 3 1 .identity)) := by
    simp [after, twoScans, obey, link?_tell, Report.revise, Report.IsOn, historyLength_tell]
    rfl
  obtain ⟨first, last, answer, hanswers⟩ := (at?_answers hnumbered 1.5).1 _ hlink
  exact ⟨_, first, last, answer, hlink, hanswers⟩

end FrameTree

end CollisionWatch
