import CollisionWatch.Proofs.FrameTree.Alike
import CollisionWatch.Proofs.FrameTree.Order

/-!
# What a link keeps of its reports

Motions are reported to a tree one by one, for any links, fixed ones and measured ones. What a link
is after a report depends on what it was before and on that report (`Report.revise`), so a run of
reports is a fold for every link on its own (`link?_tellAll`), and the reports on other links do not
matter to it. From the moment at which a link is absent or fixed, the samples reported on it are
recorded one after another, and the link keeps the last ones of their stable sort
(`FrameTree.keeps_newest`). Where no two of them have the same stamp the order in which they came is
forgotten, and look-ups cannot tell it.
-/

namespace CollisionWatch

open Double (IsNumber)

variable {T : Type}

/-- A report of a motion from a parent to a child. -/
structure Report (T : Type) where
  /-- The parent. -/
  parent : String
  /-- The child. -/
  child : String
  /-- When the motion was measured; none if it holds for all time. -/
  stamp? : Option Float
  /-- The motion. -/
  motion : T

namespace Report

/-- The report is on the link from `u` to `v`. -/
def IsOn (u v : String) (report : Report T) : Prop := u = report.parent ∧ v = report.child

/-- Whether a report is on a pair of frames is a question about their names. -/
instance (u v : String) : DecidablePred (IsOn (T := T) u v) :=
  fun _ => inferInstanceAs (Decidable (_ ∧ _))

/-- The sample that is measured. -/
def sample? (report : Report T) : Option (Sample T) := report.stamp?.map (⟨·, report.motion⟩)

/-- A report with a stamp is a sample. -/
theorem sample?_eq {report : Report T} {stamp : Float} (h : report.stamp? = some stamp) :
    report.sample? = some ⟨stamp, report.motion⟩ := congrArg (Option.map _) h

/-- What the report makes of the link from `u` to `v`. -/
def revise (u v : String) (length : Nat) (link : Option (Link T)) (report : Report T) :
    Option (Link T) :=
  if report.IsOn u v then
    match report.stamp? with
    | none => some (.fixed report.motion)
    | some stamp =>
      some (.recorded (((link.map Link.history).getD {}).record length stamp report.motion))
  else link

end Report

/-- The samples reported on the link from `u` to `v`. -/
def samplesOn (u v : String) (reports : List (Report T)) : List (Sample T) :=
  (reports.filter (·.IsOn u v)).filterMap Report.sample?

/-- No motion is reported on the link from `u` to `v` that holds for all time. -/
def Measured (u v : String) (reports : List (Report T)) : Prop :=
  ∀ report ∈ reports, report.IsOn u v → report.stamp? ≠ none

/-- Whether a list of reports measures a link can be decided. -/
instance (u v : String) : DecidablePred (Measured (T := T) u v) :=
  fun reports => inferInstanceAs (Decidable (∀ report ∈ reports, _ → _))

/-- The same samples are reported on the link from `u` to `v` in another order, and the same reports
are made on other links. -/
structure Reordered (u v : String) (reports others : List (Report T)) : Prop where
  /-- The reports on the link are samples. -/
  measured : Measured u v others
  /-- They are the same samples. -/
  perm : (samplesOn u v others).Perm (samplesOn u v reports)
  /-- The reports on other links are the same. -/
  elsewhere : others.filter (¬ ·.IsOn u v) = reports.filter (¬ ·.IsOn u v)

namespace FrameTree

/-- The tree after a report. -/
def tell (tree : FrameTree T) (report : Report T) : FrameTree T :=
  match report.stamp? with
  | none => tree.setFixed report.parent report.child report.motion
  | some stamp => tree.record report.parent report.child stamp report.motion

/-- The tree after some reports. -/
def tellAll (tree : FrameTree T) (reports : List (Report T)) : FrameTree T :=
  reports.foldl tell tree

/-! ## Links after reports -/

/-- A report does not change how long histories may be. -/
theorem historyLength_tell (tree : FrameTree T) (report : Report T) :
    (tree.tell report).historyLength = tree.historyLength := by
  unfold tell
  split <;> rfl

/-- A report does not change the tolerance. -/
theorem tolerance_tell (tree : FrameTree T) (report : Report T) :
    (tree.tell report).tolerance = tree.tolerance := by
  unfold tell
  split <;> rfl

/-- No number of reports changes the tolerance. -/
theorem tolerance_tellAll (tree : FrameTree T) (reports : List (Report T)) :
    (tree.tellAll reports).tolerance = tree.tolerance := by
  induction reports generalizing tree with
  | nil => rfl
  | cons report rest ih => exact (ih (tree.tell report)).trans (tree.tolerance_tell report)

/-- A tree stays one that was built. -/
theorem Built.tell {tree : FrameTree T} (h : tree.Built fun _ => True) (report : Report T) :
    (tree.tell report).Built fun _ => True := by
  unfold FrameTree.tell
  split
  · exact h.setFixed _ _ _
  · exact h.record _ _ _ trivial

/-- What is built and told something is still built. -/
theorem Built.tellAll {tree : FrameTree T} (h : tree.Built fun _ => True)
    (reports : List (Report T)) : (tree.tellAll reports).Built fun _ => True := by
  induction reports generalizing tree with
  | nil => exact h
  | cons report rest ih => exact ih (h.tell report)

/-- **A link after a report is made of the link before.** -/
theorem link?_tell (tree : FrameTree T) (report : Report T) (u v : String) :
    (tree.tell report).link? u v = report.revise u v tree.historyLength (tree.link? u v) := by
  have hset : ∀ link, (tree.setLink report.parent report.child link).link? u v =
      if report.IsOn u v then some link else tree.link? u v :=
    fun link => tree.link?_setLink report.parent report.child link u v
  unfold tell Report.revise
  split
  · rw [setFixed, hset]
  · rw [record, hset]
    split
    · rename_i hon
      rw [← hon.1, ← hon.2]
    · rfl

/-- A history after a report is that of before with the sample that is reported, or is not touched. -/
theorem recorded_of_tell {tree : FrameTree T} {report : Report T} {u v : String}
    {history : History T} (h : (tree.tell report).link? u v = some (.recorded history)) :
    (∃ stamp, report.IsOn u v ∧ report.stamp? = some stamp ∧
      history = (((tree.link? u v).map Link.history).getD {}).record tree.historyLength stamp
        report.motion) ∨
      ¬ report.IsOn u v ∧ tree.link? u v = some (.recorded history) := by
  rw [link?_tell, Report.revise] at h
  split at h
  · rename_i hon
    split at h
    · cases h
    · rename_i stamp hstamp
      exact .inl ⟨stamp, hon, hstamp, (Link.recorded.inj (Option.some.inj h)).symm⟩
  · rename_i hoff
    exact .inr ⟨hoff, h⟩

/-- **A run of reports is a fold for every link on its own.** -/
theorem link?_tellAll (tree : FrameTree T) (reports : List (Report T)) (u v : String) :
    (tree.tellAll reports).link? u v =
      reports.foldl (Report.revise u v tree.historyLength) (tree.link? u v) := by
  induction reports generalizing tree with
  | nil => rfl
  | cons report rest ih =>
    refine (ih (tree.tell report)).trans ?_
    rw [historyLength_tell, link?_tell, List.foldl_cons]

end FrameTree

namespace Report

/-- Only the reports on a link matter to it. -/
theorem foldl_revise_filter (u v : String) (length : Nat) (p : Report T → Bool)
    {reports : List (Report T)} (hp : ∀ report ∈ reports, report.IsOn u v → p report = true)
    (link : Option (Link T)) :
    (reports.filter p).foldl (revise u v length) link =
      reports.foldl (revise u v length) link := by
  induction reports generalizing link with
  | nil => rfl
  | cons report rest ih =>
    obtain ⟨hreport, hrest⟩ := List.forall_mem_cons.1 hp
    rw [List.foldl_cons, ← ih hrest]
    by_cases hkept : p report = true
    · rw [List.filter_cons_of_pos hkept, List.foldl_cons]
    · rw [List.filter_cons_of_neg hkept, revise, if_neg fun hon => hkept (hreport hon)]

/-- A link on which samples are reported records them one by one. -/
theorem foldl_revise_eq {u v : String} (length : Nat) {reports : List (Report T)}
    (hmeasured : Measured u v reports)
    (link : Option (Link T)) :
    reports.foldl (revise u v length) link =
      if samplesOn u v reports = [] then link
      else some (.recorded (((link.map Link.history).getD {}).recordAll length
        (samplesOn u v reports))) := by
  induction reports generalizing link with
  | nil => rfl
  | cons report rest ih =>
    obtain ⟨hreport, hrest⟩ := List.forall_mem_cons.1 hmeasured
    rw [List.foldl_cons, ih hrest]
    by_cases hon : report.IsOn u v
    · obtain ⟨stamp, hstamp⟩ := Option.ne_none_iff_exists'.1 (hreport hon)
      have hsamples : samplesOn u v (report :: rest) =
          ⟨stamp, report.motion⟩ :: samplesOn u v rest := by
        unfold samplesOn
        rw [List.filter_cons_of_pos (by simpa using hon),
          List.filterMap_cons_some (sample?_eq hstamp)]
      rw [hsamples, if_neg (List.cons_ne_nil _ _), revise, if_pos hon, hstamp]
      cases hempty : samplesOn u v rest with
      | nil => rfl
      | cons sample others => rfl
    · have hsamples : samplesOn u v (report :: rest) = samplesOn u v rest := by
        unfold samplesOn
        rw [List.filter_cons_of_neg (by simpa using hon)]
      rw [hsamples, revise, if_neg hon]

end Report

/-! ## The newest samples -/

namespace FrameTree

/-- A tree keeps one sample of a link at least. -/
theorem Built.historyLength_pos {allowed : Float → Prop} {tree : FrameTree T}
    (h : tree.Built allowed) : 0 < tree.historyLength := by
  induction h with
  | new => exact Nat.succ_pos 99
  | withTolerance seconds _ ih => exact ih
  | withHistory length _ ih => exact Nat.lt_of_lt_of_le Nat.one_pos (Nat.le_max_right length 1)
  | setFixed parent child motion _ ih => exact ih
  | record parent child motion _ _ ih => exact ih

section since

variable {tree : FrameTree T} {u v : String} {reports : List (Report T)}

/-- A link that had no samples before holds the newest ones of those reported on it. -/
theorem exists_history_tellAll
    (hstart : ∀ history, tree.link? u v ≠ some (.recorded history))
    (hmeasured : Measured u v reports)
    (hnumbers : ∀ s ∈ samplesOn u v reports, IsNumber s.stamp)
    (hsome : samplesOn u v reports ≠ []) :
    ∃ history, (tree.tellAll reports).link? u v = some (.recorded history) ∧ history.IsOrdered ∧
      history.samples = (History.inOrder (samplesOn u v reports)).rtake tree.historyLength := by
  have hempty : ((tree.link? u v).map Link.history).getD {} = {} := by
    cases hlink : tree.link? u v with
    | none => rfl
    | some link =>
      cases link with
      | fixed motion => rfl
      | recorded history => exact absurd hlink (hstart history)
  refine ⟨_, ?_, History.samples_recordAll hnumbers tree.historyLength⟩
  rw [link?_tellAll, Report.foldl_revise_eq _ hmeasured, if_neg hsome, hempty]

variable [Motion T]

/-- Reports on a link that leave the same samples, among the same reports on other links. -/
theorem alike_tellAll {others : List (Report T)} {history history' : History T}
    (hlink : (tree.tellAll reports).link? u v = some (.recorded history))
    (hlink' : (tree.tellAll others).link? u v = some (.recorded history'))
    (hordered : history.IsOrdered) (hordered' : history'.IsOrdered)
    (hsamples : history'.samples = history.samples)
    (hrest : others.filter (¬ ·.IsOn u v) = reports.filter (¬ ·.IsOn u v)) (time : Float) :
    (tree.tellAll others).Alike (tree.tellAll reports) time := by
  intro a b
  rw [tolerance_tellAll, tolerance_tellAll]
  by_cases hon : a = u ∧ b = v
  · rw [hon.1, hon.2, hlink, hlink']
    exact congrArg some (hordered'.at?_congr hordered hsamples time _)
  · have hoff : ∀ report : Report T, report.IsOn a b → decide (¬ report.IsOn u v) = true :=
      fun report hab => decide_eq_true fun huv => hon ⟨hab.1.trans huv.1.symm, hab.2.trans huv.2.symm⟩
    rw [link?_tellAll, link?_tellAll,
      ← Report.foldl_revise_filter a b _ _ fun report _ => hoff report, hrest,
      Report.foldl_revise_filter a b _ _ fun report _ => hoff report]

/-- **A link keeps the newest samples reported since it was last absent or fixed, in the order of
their stamps**, whatever is reported on other links in between. If no two stamps are the same, the
samples and all look-ups are the same in whatever order the reports came. -/
theorem keeps_newest (hbuilt : tree.Built fun _ => True)
    (hstart : ∀ history, tree.link? u v ≠ some (.recorded history))
    (hmeasured : Measured u v reports)
    (hnumbers : ∀ s ∈ samplesOn u v reports, IsNumber s.stamp)
    (hsome : samplesOn u v reports ≠ []) :
    ∃ history, (tree.tellAll reports).link? u v = some (.recorded history) ∧
      history.samples = (History.inOrder (samplesOn u v reports)).rtake tree.historyLength ∧
      history.samples.length = min (samplesOn u v reports).length tree.historyLength ∧
      history.samples ≠ [] ∧ (history.samples.Pairwise fun a b => a.stamp ≤ b.stamp) ∧
      ((samplesOn u v reports).Pairwise (fun a b => (a.stamp == b.stamp) = false) →
        ∀ others, Reordered u v reports others →
          (∃ history', (tree.tellAll others).link? u v = some (.recorded history') ∧
            history'.samples = history.samples) ∧
          ∀ time target source,
            (tree.tellAll others).lookup time target source =
              (tree.tellAll reports).lookup time target source ∧
            ∀ step, ((tree.tellAll others).Enumerates time step ↔
                (tree.tellAll reports).Enumerates time step) ∧
              (tree.tellAll others).lookupBy step target source =
                (tree.tellAll reports).lookupBy step target source) := by
  obtain ⟨history, hlink, hordered, hsamples⟩ :=
    exists_history_tellAll hstart hmeasured hnumbers hsome
  have hlength : history.samples.length =
      min (samplesOn u v reports).length tree.historyLength := by
    rw [hsamples, List.rtake, List.length_drop, History.inOrder, List.length_mergeSort]
    omega
  have hpos : 0 < (samplesOn u v reports).length := List.length_pos_of_ne_nil hsome
  have hkept := hbuilt.historyLength_pos
  refine ⟨history, hlink, hsamples, hlength, List.ne_nil_of_length_pos (by omega), hordered.sorted,
    fun hdistinct others hothers => ?_⟩
  -- Other orders: the same samples are sorted, so the same ones are kept.
  have hperm := hothers.perm
  obtain ⟨history', hlink', hordered', hsamples'⟩ := exists_history_tellAll hstart hothers.measured
    (fun s hs => hnumbers s (hperm.mem_iff.1 hs)) fun hnil =>
      hsome (List.nil_perm.1 (hnil ▸ hperm))
  have hsame : history'.samples = history.samples := by
    rw [hsamples', hsamples, History.inOrder_eq_of_perm hnumbers hdistinct hperm.symm]
  have halike := alike_tellAll hlink hlink' hordered hordered' hsame hothers.elsewhere
  refine ⟨⟨history', hlink', hsame⟩, fun time target source => ⟨?_, fun step => ?_⟩⟩
  · exact (halike time).lookup_eq (hbuilt.tellAll others) (hbuilt.tellAll reports) target source
  · exact (halike time).lookupBy_eq (hbuilt.tellAll others) (hbuilt.tellAll reports) target source

end since

/-- A scan that was late, one that was early and one in between, and a fixed mount. -/
def scans : List (Report (Pose Float32)) :=
  [⟨"map", "lidar", some 3, .identity⟩, ⟨"map", "radar", none, .identity⟩,
    ⟨"map", "lidar", some 1, .identity⟩, ⟨"map", "lidar", some 2, .identity⟩]

/-- Told backwards the scans are the same. -/
theorem reordered_scans : Reordered "map" "lidar" scans scans.reverse where
  measured := by decide +kernel
  perm := by
    rw [samplesOn, samplesOn, List.filter_reverse, List.filterMap_reverse]
    exact List.reverse_perm _
  elsewhere := by simp [scans, Report.IsOn]

/-- A tree that keeps two samples keeps two of the three. -/
theorem keeps_newest_scans :
    ∃ history, ((FrameTree.withHistory {} 2).tellAll scans).link? "map" "lidar" =
        some (.recorded history) ∧ history.samples.length = 2 ∧
      ∀ time target source,
        ((FrameTree.withHistory {} 2).tellAll scans.reverse).lookup time target source =
          ((FrameTree.withHistory {} 2).tellAll scans).lookup time target source := by
  have hmeasured : Measured "map" "lidar" scans := by decide +kernel
  have hnumbers : ∀ s ∈ samplesOn "map" "lidar" scans, IsNumber s.stamp := by decide +kernel
  have hthree : (samplesOn "map" "lidar" scans).length = 3 := by decide +kernel
  have hdistinct : (samplesOn "map" "lidar" scans).Pairwise fun a b =>
      (a.stamp == b.stamp) = false := by decide +kernel
  obtain ⟨history, hlink, -, hlength, -, -, hreordered⟩ := keeps_newest (.withHistory 2 .new)
    nofun hmeasured hnumbers (List.ne_nil_of_length_pos (hthree ▸ Nat.succ_pos 2))
  rw [hthree] at hlength
  have hsame := (hreordered hdistinct scans.reverse reordered_scans).2
  exact ⟨history, hlink, hlength, fun time target source => (hsame time target source).1⟩

end FrameTree

end CollisionWatch
