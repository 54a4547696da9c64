import CollisionWatch.Proofs.Exactness
import CollisionWatch.Proofs.FrameTree.Disorder
import CollisionWatch.Proofs.FrameTree.Reference

/-!
# A sample at its own time

A new sample that is kept stands behind those up to its stamp and before the later ones
(`History.IsOrdered.exists_samples_record_eq`). So at its own time it is the one that the search
stops behind, or the last one, and a blend with the next sample gives it the whole weight
(`Sample.same_between`). A look-up over the link answers with its displacement, also if samples with
the same stamp were there before (`FrameTree.lookup_record_self`). There are two exceptions. A next
sample that is not later by more than the gap after one stands in for it (`History.crowder?`), and up
to the first stamp the first sample stands in, which may be an earlier one with the same stamp
(`FrameTree.lookup_record_misses`).

What was told before and is forgotten does not matter, stamps that are no numbers included: where all
stamps that are left are numbers the histories are in order (`FrameTree.Built.isOrdered`).
-/

namespace CollisionWatch

open Double (IsNumber)

section place

variable {T : Type}

/-- A sample and a later one behind it are on either side of its own time. -/
theorem isBracket_of_eq {samples before rest : List (Sample T)} {new next : Sample T}
    (hsamples : samples = before ++ new :: next :: rest) (hself : new.stamp ≤ new.stamp)
    (hnext : new.stamp < next.stamp) : IsBracket samples new.stamp before.length new next where
  getElem?_before := by simp [hsamples]
  getElem?_after := by simp [hsamples]
  before_le := hself
  lt_after := hnext

namespace History

/-- The first sample after a time. -/
def after? (h : History T) (time : Float) : Option (Sample T) :=
  h.samples.find? fun s => time < s.stamp

/-- The sample that stands in for one with this stamp: the next one, if it is not later by more than
the gap after one, and not before the first stamp. -/
def crowder? (h : History T) (stamp : Float) : Option (Sample T) :=
  if h.samples.head?.any (·.stamp < stamp) then
    (h.after? stamp).filter (·.stamp - stamp ≤ doubleEpsilon)
  else none

namespace IsOrdered

variable {h : History T} (hh : h.IsOrdered) {stamp : Float} {motion : T}

include hh

/-- **A sample that is kept stands before the later ones.** -/
theorem exists_samples_record_eq {length : Nat} (hstamp : IsNumber stamp)
    (hkept : ⟨stamp, motion⟩ ∈ (h.record length stamp motion).samples) :
    ∃ before later, (h.record length stamp motion).samples = before ++ ⟨stamp, motion⟩ :: later ∧
      ∀ s ∈ later, stamp < s.stamp := by
  have hlater : ∀ s ∈ h.samples.dropWhile (·.stamp ≤ stamp), stamp < s.stamp := by
    intro s hs
    have hnot := not_of_mem_dropWhile (closed_of_sorted hh.sorted stamp) hs
    have hmem := (List.dropWhile_suffix _).mem hs
    exact (Double.not_le_iff (hh.numbers s hmem) hstamp).1 (of_decide_eq_false hnot)
  rw [hh.samples_record, placeBehind, List.rtake, List.drop_append] at hkept ⊢
  generalize ((h.samples.takeWhile (·.stamp ≤ stamp) ++ ⟨stamp, motion⟩ ::
    h.samples.dropWhile (·.stamp ≤ stamp)).length - length) = forgotten at hkept ⊢
  rcases hrest : forgotten - (h.samples.takeWhile (·.stamp ≤ stamp)).length with _ | more
  · exact ⟨_, _, by rw [List.drop_zero], hlater⟩
  · -- All samples up to the stamp are forgotten, the new one among them.
    rw [hrest, List.drop_succ_cons, List.drop_eq_nil_of_le (by omega), List.nil_append] at hkept
    have hself := hlater _ (List.mem_of_mem_drop hkept)
    exact absurd (Double.le_refl hstamp) (Double.not_le_of_lt hself)

variable {new : Sample T} {before later : List (Sample T)}
  (hsamples : h.samples = before ++ new :: later) (hlater : ∀ s ∈ later, new.stamp < s.stamp)

include hsamples hlater

/-- The first sample after it is the next one. -/
theorem after?_eq : h.after? new.stamp = later.head? := by
  have hsorted := hh.sorted
  rw [hsamples, List.pairwise_append] at hsorted
  have hbefore : before.find? (fun s => decide (new.stamp < s.stamp)) = none := by
    refine List.find?_eq_none.2 fun s hs => ?_
    have hle := hsorted.2.2 s hs new List.mem_cons_self
    simpa using fun hlt => Double.not_le_of_lt hlt hle
  have hnew : ¬ new.stamp < new.stamp := fun hlt =>
    Double.not_le_of_lt hlt (Double.le_of_lt hlt)
  rw [after?, hsamples, List.find?_append, hbefore, Option.none_or,
    List.find?_cons_of_neg (by simpa using hnew)]
  cases later with
  | nil => rfl
  | cons next rest => exact List.find?_cons_of_pos (by simpa using hlater next List.mem_cons_self)

variable [Motion T]

/-- **What is sampled at its own time**: the sample itself, unless it is behind the first one and
there is a next one, and otherwise what is between those two. -/
theorem at?_self (hfinite : new.stamp.isFinite = true) {tolerance : Float}
    (htolerance : 0 ≤ tolerance)
    (hfirst : ∀ first, h.samples.head? = some first → (first.stamp == new.stamp) = true →
      first = new) :
    h.at? new.stamp tolerance = .ok (some
      (if h.samples.head?.any (·.stamp < new.stamp) then
        (h.after? new.stamp).elim new.motion (new.between · new.stamp)
      else new.motion)) := by
  have hmem : new ∈ h.samples := hsamples ▸ List.mem_append_right before List.mem_cons_self
  have hnumber := hh.numbers new hmem
  have hself := Double.le_refl hnumber
  have hnear : new.within (new.stamp - new.stamp) tolerance = some new.motion :=
    if_pos (Double.sub_le (.inl hfinite) hself hself htolerance)
  have hhead := List.head?_eq_some_head (List.ne_nil_of_mem hmem)
  have hlast := List.getLast?_eq_some_getLast (List.ne_nil_of_mem hmem)
  generalize h.samples.head (List.ne_nil_of_mem hmem) = first at hhead
  generalize h.samples.getLast (List.ne_nil_of_mem hmem) = last at hlast
  have hfirst_le := hh.first_le hhead hmem
  by_cases hbehind : first.stamp < new.stamp
  · have hnot := Double.not_le_of_lt hbehind
    rw [hhead, Option.any_some, if_pos (decide_eq_true hbehind), hh.after?_eq hsamples hlater]
    -- The sample is behind the first one: it is the last one, or there is a bracket of its stamp.
    cases later with
    | nil =>
      rw [hsamples, List.getLast?_append_cons, List.getLast?_singleton] at hlast
      obtain rfl := Option.some.inj hlast
      rw [at?_of_last_le hhead (by rw [hsamples]; simp) hfinite tolerance hnot hself, hnear]
      rfl
    | cons next rest =>
      have hlast_later : new.stamp < last.stamp := by
        rw [hsamples, List.getLast?_append_cons, List.getLast?_cons_cons] at hlast
        exact hlater last (List.mem_of_getLast? hlast)
      obtain ⟨i, b, a, hboundary, hbracket⟩ :=
        hh.isBracket_boundary hhead hlast hbehind hlast_later
      have hours := isBracket_of_eq hsamples hself (hlater next List.mem_cons_self)
      obtain ⟨-, rfl, rfl⟩ := hours.unique hh.sorted hbracket
      exact at?_of_isBracket hhead hlast hfinite tolerance hnot (Double.not_le_of_lt hlast_later)
        hboundary hbracket
  · have hle := (Double.not_lt_iff (hh.numbers first (List.mem_of_head? hhead)) hnumber).1 hbehind
    obtain rfl := hfirst first hhead ((Double.beq_iff _ _).2 ⟨hfirst_le, hle⟩)
    rw [at?_of_le hhead hlast hfinite tolerance hself, hnear, hhead, Option.any_some,
      if_neg (by simpa using hbehind)]

end IsOrdered

end History

end place

/-! ## Blends without weight -/

/-- **At its own time a sample has the whole weight**, unless the next one is not later by more than
the gap after one. -/
theorem Sample.same_between {new next : Sample (Pose Float32)} (hfinite : new.stamp.isFinite = true)
    (hnext : IsNumber next.stamp) (hmotion : Point.isFinite next.motion.displacement = true) :
    Vector3.Same (new.between next new.stamp).displacement
      (if next.stamp - new.stamp ≤ doubleEpsilon then next.motion else new.motion).displacement := by
  unfold Sample.between
  dsimp only
  split
  · exact ⟨.refl _, .refl _, .refl _⟩
  · rename_i hwide
    have hnumber := Double.isNumber_of_isFinite hfinite
    have hself := Double.le_refl hnumber
    have hspan := Double.isNumber_sub (.inr hfinite) hnext hnumber
    have hpositive : 0 < next.stamp - new.stamp := by
      refine (Double.not_le_iff hspan (by decide +kernel)).1 fun hle => hwide ?_
      exact Double.le_trans hle (by decide +kernel)
    have hnothing := Double.isZero_sub (.inl hfinite) hself hself
    have hweight := Single.isZero_narrow (Double.isZero_div hnothing hpositive)
    exact Vector3.same_lerp hweight hmotion _

namespace FrameTree

section direct

variable {T : Type} [Motion T] {tree : FrameTree T} {time : Float} {u v : String} {motion : T}

/-- A look-up over a usable link takes that link. -/
theorem lookup_of_carries (hindex : tree.Indexed) (hstart : tree.StartsWithNumbers) (hne : u ≠ v)
    (h : tree.Carries time u v motion) :
    tree.lookup time u v = .ok (some (Motion.compose Motion.identity motion)) := by
  have hone : Chain (tree.Hop time) u v [motion] := Chain.origin.extend (.inl h)
  rcases lookup_cases hindex time hne with ⟨answer, hlookup, hshortest⟩ | ⟨crash, hbreaks, -⟩
  · obtain ⟨found, rfl⟩ := Option.isSome_iff_exists.1 (hshortest.isSome_iff.2 ⟨_, hone⟩)
    obtain ⟨motions, hchain, hleast, rfl⟩ := hshortest.shortest found rfl
    obtain ⟨step, rfl, hdown | ⟨hnone, -⟩⟩ :=
      hchain.exists_hop_of_length_le_one (hleast _ hone) hne
    · rw [hlookup, hdown.unique h]
      rfl
    · exact absurd h (hnone motion)
  · exact absurd hbreaks (hstart.not_breaks time crash)

end direct

/-! ## What has been told -/

section told

variable {T : Type} {P : Sample T → Prop}

/-- What is told, if it is a sample, satisfies `P`. -/
def Brings (P : Sample T → Prop) : Command T → Prop
  | .tell report => ∀ sample, report.sample? = some sample → P sample
  | _ => True

/-- All samples in the tree satisfy `P`. -/
def AllSamples (P : Sample T → Prop) (tree : FrameTree T) : Prop :=
  ∀ u v history, tree.link? u v = some (.recorded history) → ∀ s ∈ history.samples, P s

/-- A report brings no sample but its own. -/
theorem AllSamples.tell {tree : FrameTree T} (h : tree.AllSamples P) {report : Report T}
    (hreport : ∀ sample, report.sample? = some sample → P sample) :
    (tree.tell report).AllSamples P := by
  intro u v history hlink s hs
  obtain ⟨stamp, -, hstamp, rfl⟩ | ⟨-, hlink⟩ := recorded_of_tell hlink
  · rcases History.mem_samples_record hs with rfl | hs
    · exact hreport _ (Report.sample?_eq hstamp)
    · obtain ⟨old, hold, hs⟩ := exists_link_of_mem_samples hs
      exact h u v old hold s hs
  · exact h u v history hlink s hs

/-- **What holds of all samples that are told holds of all samples in the tree.** -/
theorem allSamples_after {commands : List (Command T)}
    (hcommands : ∀ command ∈ commands, Brings P command) : (after commands).AllSamples P := by
  refine after_induction (P := AllSamples P) nofun fun tree htree command hmem => ?_
  cases command with
  | tell report => exact htree.tell (hcommands _ hmem)
  | withTolerance seconds => exact htree
  | withHistory length => exact htree

end told

end FrameTree

/-! ## The sample that was just recorded -/

/-- The time and the displacement of the sample are finite. -/
structure Sample.IsFinite (sample : Sample (Pose Float32)) : Prop where
  /-- The time is finite. -/
  stamp : sample.stamp.isFinite = true
  /-- The displacement is finite. -/
  displacement : Point.isFinite sample.motion.displacement = true

/-- What a sample has at its own time is displaced as the sample, or as the one that stands in. -/
theorem History.same_crowder? {h : History (Pose Float32)} (hh : ∀ s ∈ h.samples, s.IsFinite)
    {new : Sample (Pose Float32)} (hnew : new.IsFinite) :
    Vector3.Same
        (if h.samples.head?.any (·.stamp < new.stamp) then
          (h.after? new.stamp).elim new.motion (new.between · new.stamp)
        else new.motion).displacement
        ((h.crowder? new.stamp).elim new.motion Sample.motion).displacement ∧
      Point.isFinite ((h.crowder? new.stamp).elim new.motion Sample.motion).displacement = true := by
  have hself : Vector3.Same new.motion.displacement new.motion.displacement :=
    ⟨.refl _, .refl _, .refl _⟩
  unfold crowder?
  split
  · cases hafter : h.after? new.stamp with
    | none => exact ⟨hself, hnew.displacement⟩
    | some next =>
      have hnext := hh next (List.mem_of_find?_eq_some hafter)
      have hbetween := Sample.same_between hnew.stamp (Double.isNumber_of_isFinite hnext.stamp)
        hnext.displacement
      rw [Option.filter_some, Option.elim_some]
      split
      · rename_i hnear
        rw [if_pos (of_decide_eq_true hnear)] at hbetween
        exact ⟨hbetween, hnext.displacement⟩
      · rename_i hfar
        rw [if_neg (by simpa using hfar)] at hbetween
        exact ⟨hbetween, hnew.displacement⟩
  · exact ⟨hself, hnew.displacement⟩

namespace FrameTree

/-- Whatever has been told, of two neighbours the second is not the earlier one. -/
theorem Built.ascends {T : Type} {allowed : Float → Prop} {tree : FrameTree T}
    (h : tree.Built allowed) (u v : String) :
    (((tree.link? u v).map Link.history).getD {}).Ascends := by
  have hlink : ∀ {tree : FrameTree T}, (((tree.link? u v).map Link.history).getD {}).Ascends →
      ∀ parent child link, (u = parent ∧ v = child → link.history.Ascends) →
        ((((tree.setLink parent child link).link? u v).map Link.history).getD {}).Ascends := by
    intro tree h parent child link hlink
    rw [link?_setLink]
    split
    · exact hlink ‹_›
    · exact h
  induction h with
  | new => exact History.ascends_empty
  | withTolerance seconds _ ih => exact ih
  | withHistory length _ ih => exact ih
  | setFixed parent child motion _ ih =>
    exact hlink ih parent child _ fun _ => History.ascends_empty
  | record parent child motion _ _ ih =>
    refine hlink ih parent child _ ?_
    rintro ⟨rfl, rfl⟩
    exact ih.record _ _ _

/-- Where all stamps are numbers all histories are in order, whatever has been told before. -/
theorem Built.isOrdered {T : Type} {allowed : Float → Prop} {tree : FrameTree T}
    (h : tree.Built allowed) (hnumbers : tree.NumberStamped) (u v : String) :
    (((tree.link? u v).map Link.history).getD {}).IsOrdered := by
  refine (h.ascends u v).isOrdered fun s hs => ?_
  obtain ⟨history, hlink, hs⟩ := exists_link_of_mem_samples hs
  exact hnumbers u v history hlink s hs

/-- The stamps of finite samples are numbers. -/
theorem AllSamples.numberStamped {tree : FrameTree (Pose Float32)}
    (h : tree.AllSamples Sample.IsFinite) : tree.NumberStamped :=
  fun u v history hlink s hs => Double.isNumber_of_isFinite (h u v history hlink s hs).stamp

/-- **A sample that was just recorded is the one used at its own time**, in every tree that was
built and holds finite samples only, also if other samples with the same stamp are there: unless an
earlier one of those is the first sample of the link, or the next sample stands in. -/
theorem lookup_record_self {tree : FrameTree (Pose Float32)} (hbuilt : tree.Built fun _ => True)
    (htree : tree.AllSamples Sample.IsFinite) {parent child : String} (hne : parent ≠ child)
    {stamp : Float} {motion : Pose Float32} (hnew : Sample.IsFinite ⟨stamp, motion⟩)
    {history : History (Pose Float32)}
    (hlink : (tree.record parent child stamp motion).link? parent child =
      some (.recorded history))
    (hkept : ⟨stamp, motion⟩ ∈ history.samples)
    (hfirst : ∀ first, history.samples.head? = some first → (first.stamp == stamp) = true →
      first = ⟨stamp, motion⟩) :
    ∃ answer, (tree.record parent child stamp motion).lookup stamp parent child =
        .ok (some answer) ∧
      answer.displacement.Equal
        ((history.crowder? stamp).elim motion Sample.motion).displacement := by
  have hbuilt' : (tree.record parent child stamp motion).Built fun _ => True :=
    hbuilt.record parent child motion trivial
  have htree' : (tree.record parent child stamp motion).AllSamples Sample.IsFinite := by
    show (tree.tell ⟨parent, child, some stamp, motion⟩).AllSamples Sample.IsFinite
    refine htree.tell ?_
    rintro sample ⟨⟩
    exact hnew
  have hordered : history.IsOrdered := by
    have hgetD := hbuilt'.isOrdered htree'.numberStamped parent child
    rwa [hlink] at hgetD
  obtain ⟨before, later, hsamples, hlater⟩ : ∃ before later,
      history.samples = before ++ ⟨stamp, motion⟩ :: later ∧ ∀ s ∈ later, stamp < s.stamp := by
    have hold := hbuilt.isOrdered htree.numberStamped parent child
    rw [record, link?_setLink, if_pos ⟨rfl, rfl⟩] at hlink
    obtain rfl := Link.recorded.inj (Option.some.inj hlink)
    exact hold.exists_samples_record_eq (Double.isNumber_of_isFinite hnew.stamp) hkept
  have hat := hordered.at?_self hsamples hlater hnew.stamp hbuilt'.tolerance_nonneg hfirst
  have hlookup := lookup_of_carries hbuilt'.indexed htree'.numberStamped.startsWithNumbers hne
    ⟨_, hlink, hat⟩
  obtain ⟨hsame, hfinite⟩ := history.same_crowder? (htree' parent child history hlink) hnew
  have hcomposed := Pose.same_identity_compose (hsame.isFinite hfinite)
  exact ⟨_, hlookup, (hcomposed.trans hsame).equal hfinite⟩

/-! ## Reports of a lidar -/

/-- Samples are compared bit by bit. -/
instance : DecidableEq (Sample (Pose Float32)) := fun a b =>
  decidable_of_iff (a.stamp = b.stamp ∧ a.motion = b.motion) (by cases a; cases b; simp)

/-- A pose displaced to the side. -/
def aside (x : Float32) : Pose Float32 := ⟨⟨x, 0, 0⟩, .identity⟩

/-- The lidar is reported beside the map, at some times by some distances. -/
def lidar (reports : List (Float × Float32)) : List (Command (Pose Float32)) :=
  reports.map fun report => .tell ⟨"map", "lidar", some report.1, aside report.2⟩

/-- What is reported is finite if its time and its distance are. -/
theorem isFinite_aside {stamp : Float} {x : Float32} (hstamp : stamp.isFinite = true)
    (hx : x.isFinite = true) : Sample.IsFinite ⟨stamp, aside x⟩ := by
  have hzero : (0 : Float32).isFinite = true := by decide +kernel
  exact ⟨hstamp, (Point.isFinite_iff _).2 ⟨hx, hzero, hzero⟩⟩

/-- If the reports of the lidar are finite, so are all samples. -/
theorem allSamples_lidar {reports : List (Float × Float32)}
    (h : ∀ report ∈ reports, report.1.isFinite = true ∧ report.2.isFinite = true) :
    (after (lidar reports)).AllSamples Sample.IsFinite := by
  refine allSamples_after fun command hcommand => ?_
  obtain ⟨report, hreport, rfl⟩ := List.mem_map.1 hcommand
  rintro sample ⟨⟩
  exact isFinite_aside (h report hreport).1 (h report hreport).2

/-- The history of the lidar then. -/
def heard (reports : List (Float × Float32)) : History (Pose Float32) :=
  History.recordAll {} 100 (reports.map fun report => ⟨report.1, aside report.2⟩)

/-- The link to the lidar has the samples that were reported. -/
theorem link?_record_lidar (reports : List (Float × Float32)) (stamp : Float) (x : Float32) :
    ((after (lidar reports)).record "map" "lidar" stamp (aside x)).link? "map" "lidar" =
      some (.recorded ((heard reports).record 100 stamp (aside x))) := by
  suffices h : ∀ tree : FrameTree (Pose Float32), tree.historyLength = 100 →
      ((lidar reports).foldl obey tree).historyLength = 100 ∧
        ((((lidar reports).foldl obey tree).link? "map" "lidar").map Link.history).getD {} =
          (((tree.link? "map" "lidar").map Link.history).getD {}).recordAll 100
            (reports.map fun report => ⟨report.1, aside report.2⟩) by
    obtain ⟨hlength, hhistory⟩ := h {} rfl
    rw [record, link?_setLink, if_pos ⟨rfl, rfl⟩, after, hlength, hhistory]
    rfl
  induction reports with
  | nil => exact fun tree hlength => ⟨hlength, rfl⟩
  | cons report rest ih =>
    intro tree hlength
    obtain ⟨hkept, hhistory⟩ := ih (tree.tell ⟨"map", "lidar", some report.1, aside report.2⟩)
      ((historyLength_tell _ _).trans hlength)
    refine ⟨hkept, hhistory.trans ?_⟩
    rw [link?_tell, hlength]
    rfl

/-- A correction of the sample at one, with others around it. -/
theorem lookup_record_self_corrected :
    ∃ answer, ((after (lidar [(2, 9), (0, 0), (1, 1)])).record "map" "lidar" 1 (aside 2)).lookup 1
        "map" "lidar" = .ok (some answer) ∧
      answer.displacement.Equal (aside 2).displacement := by
  have hlink := link?_record_lidar [(2, 9), (0, 0), (1, 1)] 1 2
  generalize hhistory : (heard [(2, 9), (0, 0), (1, 1)]).record 100 1 (aside 2) = history at hlink
  have hkept : ⟨1, aside 2⟩ ∈ history.samples := hhistory ▸ by decide +kernel
  have hbehind : history.samples.head?.all (fun first => !(first.stamp == 1)) = true :=
    hhistory ▸ by decide +kernel
  have hnone : history.crowder? 1 = none := hhistory ▸ by decide +kernel
  have htree : (after (lidar [(2, 9), (0, 0), (1, 1)])).AllSamples Sample.IsFinite :=
    allSamples_lidar (by decide +kernel)
  have hnew : Sample.IsFinite ⟨1, aside 2⟩ := isFinite_aside (by decide +kernel) (by decide +kernel)
  have h := lookup_record_self (built_after _) htree (by decide) hnew hlink hkept
    fun first hfirst hstamp => by
      have hdiffers := (Option.all_eq_true _ _).1 hbehind first hfirst
      simp [hstamp] at hdiffers
  rwa [hnone] at h

/-- Among finite samples a finite one is told and kept, and a look-up at its own time answers with
another displacement. -/
structure Missed (commands : List (Command (Pose Float32))) (stamp : Float)
    (motion answer : Pose Float32) : Prop where
  /-- What was told before is finite. -/
  allSamples : (after commands).AllSamples Sample.IsFinite
  /-- The sample is finite. -/
  finite : Sample.IsFinite ⟨stamp, motion⟩
  /-- It is kept. -/
  kept : ∃ history, ((after commands).record "map" "lidar" stamp motion).link? "map" "lidar" =
    some (.recorded history) ∧ ⟨stamp, motion⟩ ∈ history.samples
  /-- The look-up at its own time has this answer. -/
  lookup : ((after commands).record "map" "lidar" stamp motion).lookup stamp "map" "lidar" =
    .ok (some answer)
  /-- The answer is displaced otherwise. -/
  differs : ¬ answer.displacement.Equal motion.displacement

/-- **There are samples that are not used at their own times.** One is a correction of the first
sample of its link; the other is followed by a sample not later by more than the gap after one. -/
theorem lookup_record_misses : Missed (lidar [(1, 1)]) 1 (aside 2) (aside 1) ∧
    Missed (lidar [(-1, 1), (1e-17, 2)]) 0 (aside 3) (aside 2) where
  left :=
    { allSamples := allSamples_lidar (by decide +kernel)
      finite := isFinite_aside (by decide +kernel) (by decide +kernel)
      kept := ⟨_, link?_record_lidar _ _ _, by decide +kernel⟩
      lookup := by decide +kernel
      differs := fun h => absurd h.x (by decide +kernel) }
  right :=
    { allSamples := allSamples_lidar (by decide +kernel)
      finite := isFinite_aside (by decide +kernel) (by decide +kernel)
      kept := ⟨_, link?_record_lidar _ _ _, by decide +kernel⟩
      lookup := by decide +kernel
      differs := fun h => absurd h.x (by decide +kernel) }

end FrameTree

end CollisionWatch
