import CollisionWatch.Proofs.FrameTree.Sampling
import Mathlib.Data.List.Chain
import Mathlib.Data.List.DropRight
import Mathlib.Data.List.Pairwise
import Mathlib.Data.Set.List

/-!
# Histories in order

Where stamps are numbers a history is in order: a new sample is placed behind those whose stamps are
at most its own (`IsOrdered.samples_record`), so samples with the same stamp stand as they came. That
is what a stable sort does with one more item at the end (`mergeSort_concat`), and it does not matter
whether the oldest items are forgotten before or after it (`rtake_placeBehind`). So a history that
was recorded sample by sample holds the last ones of the stable sort of them all
(`History.samples_recordAll`).

In an ordered history the search finds the place where the samples that satisfy a predicate end,
wherever the seam of the ring lies (`IsOrdered.boundary_eq`).

A stamp that is not a number may stand anywhere. It spoils the order, but only across its own place:
of two neighbours the second is never the earlier one (`Ascends.record`). So as soon as all such
samples are forgotten the history is in order again (`Ascends.isOrdered`).
-/

namespace CollisionWatch

open Double (IsNumber)

/-! ## Lists that start with what satisfies a predicate -/

section closed

variable {α : Type} {p : α → Bool} {xs : List α}

/-- The list with an item behind those at its start that satisfy `p`. -/
def placeBehind (p : α → Bool) (x : α) (xs : List α) : List α :=
  xs.takeWhile p ++ x :: xs.dropWhile p

/-- An item that is put in its place makes the list longer by one. -/
theorem length_placeBehind (p : α → Bool) (x : α) (xs : List α) :
    (placeBehind p x xs).length = xs.length + 1 := by
  have hlength := congrArg List.length (List.takeWhile_append_dropWhile (p := p) (l := xs))
  rw [List.length_append] at hlength
  rw [placeBehind, List.length_append, List.length_cons, ← hlength]
  omega

/-- Behind the first item that fails all fail. -/
theorem not_of_mem_dropWhile (h : xs.Pairwise fun a b => p b = true → p a = true) {x : α}
    (hx : x ∈ xs.dropWhile p) : p x = false := by
  induction xs with
  | nil => exact absurd hx List.not_mem_nil
  | cons first rest ih =>
    obtain ⟨hfirst, hrest⟩ := List.pairwise_cons.1 h
    by_cases hp : p first = true
    · rw [List.dropWhile_cons_of_pos hp] at hx
      exact ih hrest hx
    · rw [List.dropWhile_cons_of_neg hp] at hx
      rcases List.mem_cons.1 hx with rfl | hx
      · exact Bool.eq_false_iff.2 hp
      · exact Bool.eq_false_iff.2 fun hpx => hp (hfirst x hx hpx)

/-- In such a list a boundary is where the items that satisfy `p` end. -/
theorem IsBoundary.take_eq (h : xs.Pairwise fun a b => p b = true → p a = true) {k : Nat}
    (hk : IsBoundary p xs k) : xs.take k = xs.takeWhile p ∧ xs.drop k = xs.dropWhile p := by
  have hbefore : ∀ x ∈ xs.take k, p x = true := by
    intro x hx
    obtain ⟨i, hi, rfl⟩ := List.mem_take_iff_getElem.1 hx
    have hle := hk.le_length
    obtain ⟨j, rfl⟩ : ∃ j, k = j + 1 := ⟨k - 1, by omega⟩
    have hlast := hk.before j rfl
    rw [List.getElem?_eq_getElem (by omega), Option.any_some] at hlast
    rcases Nat.lt_or_ge i j with hij | hij
    · exact List.pairwise_iff_getElem.1 h i j (by omega) (by omega) hij hlast
    · obtain rfl : i = j := by omega
      exact hlast
  have hafter : (xs.drop k).head?.any p = false := by
    rw [List.head?_drop]
    exact hk.after
  have hrest : (xs.drop k).takeWhile p = [] ∧ (xs.drop k).dropWhile p = xs.drop k := by
    cases hdrop : xs.drop k with
    | nil => exact ⟨rfl, rfl⟩
    | cons x rest =>
      rw [hdrop, List.head?_cons, Option.any_some] at hafter
      rw [List.takeWhile_cons_of_neg (by simp [hafter]),
        List.dropWhile_cons_of_neg (by simp [hafter])]
      exact ⟨rfl, rfl⟩
  have htake : (xs.take k ++ xs.drop k).takeWhile p = _ := List.takeWhile_append_of_pos hbefore
  have hdrop : (xs.take k ++ xs.drop k).dropWhile p = _ := List.dropWhile_append_of_pos hbefore
  rw [List.take_append_drop, hrest.1, List.append_nil] at htake
  rw [List.take_append_drop, hrest.2] at hdrop
  exact ⟨htake.symm, hdrop.symm⟩

/-- The item is put among the others, and none is lost. -/
theorem placeBehind_perm (p : α → Bool) (x : α) (xs : List α) :
    (placeBehind p x xs).Perm (x :: xs) := by
  have hmiddle : (xs.takeWhile p ++ x :: xs.dropWhile p).Perm _ := List.perm_middle
  rwa [List.takeWhile_append_dropWhile] at hmiddle

/-- A list in order stays in order if the item goes with those before it and those behind. -/
theorem pairwise_placeBehind {r : α → α → Prop} {x : α} (hr : xs.Pairwise r)
    (h : xs.Pairwise fun a b => p b = true → p a = true) (hbefore : ∀ a ∈ xs, p a = true → r a x)
    (hbehind : ∀ a ∈ xs, p a = false → r x a) : (placeBehind p x xs).Pairwise r := by
  have hparts := hr
  rw [← List.takeWhile_append_dropWhile (p := p) (l := xs), List.pairwise_append] at hparts
  obtain ⟨hstart, hrest, hacross⟩ := hparts
  refine List.pairwise_append.2 ⟨hstart, List.pairwise_cons.2 ⟨fun b hb => ?_, hrest⟩, ?_⟩
  · exact hbehind b ((List.dropWhile_suffix p).mem hb) (not_of_mem_dropWhile h hb)
  · intro a ha b hb
    rcases List.mem_cons.1 hb with rfl | hb
    · exact hbefore a ((List.takeWhile_prefix p).mem ha) (List.mem_takeWhile_imp ha)
    · exact hacross a ha b hb

/-- Items may be mapped before or after one is put in its place. -/
theorem map_placeBehind {β : Type} (f : α → β) (q : β → Bool) (x : α) (xs : List α) :
    (placeBehind (q ∘ f) x xs).map f = placeBehind q (f x) (xs.map f) := by
  rw [placeBehind, placeBehind, List.map_append, List.map_cons, List.takeWhile_map,
    List.dropWhile_map]

/-- A boundary of ordered items is where the test fails first. -/
theorem IsBoundary.eq_length (h : xs.Pairwise fun a b => p b = true → p a = true) {k : Nat}
    (hk : IsBoundary p xs k) : k = (xs.takeWhile p).length := by
  rw [← (hk.take_eq h).1, List.length_take, Nat.min_eq_left hk.le_length]

/-- The last items of two lists one after the other, if there are enough in the second. -/
theorem rtake_append_of_le {xs ys : List α} {n : Nat} (h : n ≤ ys.length) :
    (xs ++ ys).rtake n = ys.rtake n := by
  rw [List.rtake, List.rtake, List.length_append, Nat.add_sub_assoc h, List.drop_append,
    List.drop_eq_nil_of_le (Nat.le_add_right _ _), List.nil_append, Nat.add_sub_cancel_left]

/-- An item is placed among the items of the first list if one of those fails. -/
theorem placeBehind_append (x : α) (xs ys : List α) :
    placeBehind p x (xs ++ ys) =
      if ∀ a ∈ xs, p a = true then xs ++ placeBehind p x ys else placeBehind p x xs ++ ys := by
  split
  · rename_i hall
    rw [placeBehind, placeBehind, List.takeWhile_append_of_pos hall,
      List.dropWhile_append_of_pos hall, List.append_assoc]
  · rename_i hsome
    have htake : (xs.takeWhile p).length ≠ xs.length := fun hlength =>
      hsome (List.takeWhile_eq_self_iff.1 ((List.takeWhile_prefix p).eq_of_length hlength))
    have hdrop : ¬ (xs.dropWhile p).isEmpty = true := fun hempty =>
      hsome (List.dropWhile_eq_nil_iff.1 (List.isEmpty_iff.1 hempty))
    rw [placeBehind, placeBehind, List.takeWhile_append, if_neg htake, List.dropWhile_append,
      if_neg hdrop, List.append_assoc, List.cons_append]

/-- An item comes first where all others fail. -/
theorem placeBehind_of_forall (x : α) (h : ∀ a ∈ xs, p a = false) :
    placeBehind p x xs = x :: xs := by
  cases xs with
  | nil => rfl
  | cons first rest =>
    have hfirst : ¬ p first = true := by simp [h first List.mem_cons_self]
    rw [placeBehind, List.takeWhile_cons_of_neg hfirst, List.dropWhile_cons_of_neg hfirst,
      List.nil_append]

/-- **Of a list that is forgotten from its start the last items are the same whether an item is
placed before or after.** -/
theorem rtake_placeBehind (h : xs.Pairwise fun a b => p b = true → p a = true) (x : α) (n : Nat) :
    (placeBehind p x (xs.rtake n)).rtake n = (placeBehind p x xs).rtake n := by
  rcases Nat.lt_or_ge n xs.length with hlt | hge
  · have hlength : (xs.rtake n).length = n := by
      rw [List.rtake, List.length_drop]
      omega
    obtain ⟨forgotten, kept, rfl, hkept⟩ : ∃ forgotten kept, xs = forgotten ++ kept ∧
        xs.rtake n = kept :=
      ⟨xs.take (xs.length - n), xs.rtake n, (List.take_append_drop _ _).symm, rfl⟩
    rw [hkept] at hlength ⊢
    rw [placeBehind_append]
    split
    · rw [rtake_append_of_le]
      rw [length_placeBehind]
      omega
    · -- The item comes among the forgotten ones, or first and is forgotten too.
      rename_i hsome
      push Not at hsome
      obtain ⟨a, ha, hpa⟩ := hsome
      have hnone : ∀ b ∈ kept, p b = false := fun b hb =>
        Bool.eq_false_iff.2 fun hpb => hpa ((List.pairwise_append.1 h).2.2 a ha b hb hpb)
      rw [placeBehind_of_forall x hnone, ← List.singleton_append, rtake_append_of_le hlength.ge,
        rtake_append_of_le hlength.ge]
  · rw [show xs.rtake n = xs by rw [List.rtake, Nat.sub_eq_zero_of_le hge, List.drop_zero]]

end closed

/-! ## Stable sorting -/

section sort

variable {α : Type} {le : α → α → Bool}

/-- A numbered item comes before those that are larger, and as large ones with higher numbers. -/
theorem zipIdxLE_iff {a b : α × Nat} :
    List.zipIdxLE le a b = true ↔ le a.1 b.1 = true ∧ (le b.1 a.1 = true → a.2 ≤ b.2) := by
  unfold List.zipIdxLE
  split
  · rename_i hle
    split
    · rename_i hge
      simp [hle, hge]
    · rename_i hge
      simp [hle, hge]
  · rename_i hle
    simp [hle]

/-- Numbered items have their own places. -/
theorem zipIdxLE_antisymm {xs : List α} {a b : α × Nat} (ha : a ∈ xs.zipIdx) (hb : b ∈ xs.zipIdx)
    (hab : List.zipIdxLE le a b = true) (hba : List.zipIdxLE le b a = true) : a = b := by
  obtain ⟨hle, hnumber⟩ := zipIdxLE_iff.1 hab
  obtain ⟨hge, hnumber'⟩ := zipIdxLE_iff.1 hba
  have hsame := Nat.le_antisymm (hnumber hge) (hnumber' hle)
  refine Prod.ext ?_ hsame
  have hxa := List.mem_zipIdx_iff_getElem?.1 ha
  have hxb := List.mem_zipIdx_iff_getElem?.1 hb
  rw [hsame, hxb] at hxa
  exact (Option.some.inj hxa).symm

/-- **A stable sort places one more item at the end behind those at most as large.** -/
theorem mergeSort_concat (trans : ∀ a b c, le a b = true → le b c = true → le a c = true)
    (total : ∀ a b, (le a b || le b a) = true) (xs : List α) (x : α) :
    (xs ++ [x]).mergeSort le = placeBehind (le · x) x (xs.mergeSort le) := by
  -- Numbered by place no two items are alike, and there is only one way to sort them.
  have hsorted := List.pairwise_mergeSort (List.zipIdxLE_trans trans) (List.zipIdxLE_total total)
  have hzip : (xs ++ [x]).zipIdx = xs.zipIdx ++ [(x, xs.length)] := by
    rw [List.zipIdx_append, List.zipIdx_singleton, Nat.zero_add]
  have hclosed : (xs.zipIdx.mergeSort (List.zipIdxLE le)).Pairwise fun a b =>
      le b.1 x = true → le a.1 x = true :=
    (hsorted xs.zipIdx).imp fun hab hbx => trans _ _ _ (zipIdxLE_iff.1 hab).1 hbx
  have hplaced : (placeBehind ((le · x) ∘ Prod.fst) (x, xs.length)
      (xs.zipIdx.mergeSort (List.zipIdxLE le))).Pairwise fun a b => List.zipIdxLE le a b = true := by
    refine pairwise_placeBehind (hsorted xs.zipIdx) hclosed (fun a ha hax => ?_)
      fun a _ hax => ?_
    · have hlt := List.snd_lt_of_mem_zipIdx (List.mem_mergeSort.1 ha)
      exact zipIdxLE_iff.2 ⟨hax, fun _ => hlt.le⟩
    · have hxa := total a.1 x
      rw [show le a.1 x = false from hax, Bool.false_or] at hxa
      exact zipIdxLE_iff.2 ⟨hxa, fun hle => absurd hle (Bool.eq_false_iff.1 hax)⟩
  have hperm : (placeBehind ((le · x) ∘ Prod.fst) (x, xs.length)
      (xs.zipIdx.mergeSort (List.zipIdxLE le))).Perm (xs ++ [x]).zipIdx := by
    rw [hzip]
    refine (placeBehind_perm _ _ _).trans ?_
    refine (List.Perm.cons _ (List.mergeSort_perm _ _)).trans ?_
    exact (List.perm_append_singleton _ _).symm
  have hnumbered : (xs ++ [x]).zipIdx.mergeSort (List.zipIdxLE le) =
      placeBehind ((le · x) ∘ Prod.fst) (x, xs.length) (xs.zipIdx.mergeSort (List.zipIdxLE le)) := by
    refine List.Perm.eq_of_pairwise (fun a b ha hb hab hba => ?_) (hsorted _) hplaced
      ((List.mergeSort_perm _ _).trans hperm.symm)
    exact zipIdxLE_antisymm (List.mem_mergeSort.1 ha) (hperm.mem_iff.1 hb) hab hba
  rw [← List.mergeSort_zipIdx, hnumbered, map_placeBehind, List.mergeSort_zipIdx]

end sort

namespace History

variable {T : Type} {h : History T}

/-- The stamps are numbers and do not descend. -/
structure IsOrdered (h : History T) : Prop where
  /-- The stamps are numbers. -/
  numbers : h.NumberStamped
  /-- Every sample is stamped at most as late as those behind it. -/
  sorted : h.samples.Pairwise fun a b => a.stamp ≤ b.stamp

/-- The history without samples is in order. -/
theorem isOrdered_empty : ({} : History T).IsOrdered :=
  ⟨fun _ hs => absurd hs List.not_mem_nil, .nil⟩

/-- Where stamps do not descend the samples up to a time stand at the start. -/
theorem closed_of_sorted {samples : List (Sample T)}
    (hsorted : samples.Pairwise fun a b => a.stamp ≤ b.stamp) (time : Float) :
    samples.Pairwise fun a b => decide (b.stamp ≤ time) = true → decide (a.stamp ≤ time) = true :=
  hsorted.imp fun hab hb => decide_eq_true (Double.le_trans hab (of_decide_eq_true hb))

/-- **In a history in order the search finds where the samples up to a time end**, whatever the
seam. -/
theorem IsOrdered.boundary_eq (hh : h.IsOrdered) (time : Float) :
    h.samples.take (h.boundary (·.stamp ≤ time)) = h.samples.takeWhile (·.stamp ≤ time) ∧
      h.samples.drop (h.boundary (·.stamp ≤ time)) = h.samples.dropWhile (·.stamp ≤ time) :=
  (h.isBoundary_boundary _).take_eq (closed_of_sorted hh.sorted time)

/-- What a history in order answers depends on its samples, and not on the ring they are kept in. -/
theorem IsOrdered.at?_congr [Motion T] {other : History T} (hh : h.IsOrdered)
    (hother : other.IsOrdered) (hsamples : h.samples = other.samples) (time tolerance : Float) :
    h.at? time tolerance = other.at? time tolerance := by
  have hboundary : h.boundary (·.stamp ≤ time) = other.boundary (·.stamp ≤ time) := by
    rw [(h.isBoundary_boundary _).eq_length (closed_of_sorted hh.sorted time), hsamples,
      ← (other.isBoundary_boundary _).eq_length (closed_of_sorted hother.sorted time)]
  rw [at?, at?, hboundary, hsamples]

/-- **A new sample is placed behind those stamped at most as late**, and the oldest are forgotten. -/
theorem IsOrdered.samples_record (hh : h.IsOrdered) (length : Nat) (stamp : Float) (motion : T) :
    (h.record length stamp motion).samples =
      (placeBehind (·.stamp ≤ stamp) ⟨stamp, motion⟩ h.samples).rtake length := by
  obtain ⟨htake, hdrop⟩ := hh.boundary_eq stamp
  rw [History.record, samples_forget, samples_insert, htake, hdrop]
  rfl

/-- A history has one sample more after a report, unless it is full. -/
theorem IsOrdered.length_record (hh : h.IsOrdered) (length : Nat) (stamp : Float) (motion : T) :
    (h.record length stamp motion).samples.length = min (h.samples.length + 1) length := by
  rw [hh.samples_record, List.rtake, List.length_drop, length_placeBehind]
  omega

/-- A history in order stays in order. -/
theorem IsOrdered.record (hh : h.IsOrdered) (length : Nat) {stamp : Float}
    (hstamp : IsNumber stamp) (motion : T) : (h.record length stamp motion).IsOrdered := by
  refine ⟨hh.numbers.record length hstamp motion, ?_⟩
  rw [hh.samples_record]
  refine (List.Pairwise.sublist (List.drop_sublist _ _) (pairwise_placeBehind hh.sorted
    (closed_of_sorted hh.sorted stamp) (fun s _ hs => of_decide_eq_true hs) fun s hs hlater => ?_))
  exact (Double.le_or_le hstamp (hh.numbers s hs)).resolve_right (of_decide_eq_false hlater)

/-- Of two neighbours that are stamped with numbers the second is not the earlier one. -/
def Ascends (h : History T) : Prop :=
  h.samples.IsChain fun a b => IsNumber a.stamp → IsNumber b.stamp → a.stamp ≤ b.stamp

/-- A history without samples ascends. -/
theorem ascends_empty : ({} : History T).Ascends := .nil

/-- **Whatever the stamps, no new sample is placed before an earlier neighbour**, or behind a later
one. -/
theorem Ascends.record (hh : h.Ascends) (length : Nat) (stamp : Float) (motion : T) :
    (h.record length stamp motion).Ascends := by
  have hplace := h.isBoundary_boundary fun s => s.stamp ≤ stamp
  rw [Ascends, History.record, samples_forget, samples_insert]
  generalize h.boundary (fun s => s.stamp ≤ stamp) = place at hplace
  refine List.IsChain.drop ?_ _
  refine List.isChain_append.2 ⟨List.IsChain.take hh place, List.isChain_cons.2 ⟨?_, ?_⟩, ?_⟩
  · intro next hnext hnew hnumber
    rw [List.head?_drop] at hnext
    have hafter := hplace.after
    rw [Option.mem_def.1 hnext, Option.any_some] at hafter
    exact (Double.le_or_le hnew hnumber).resolve_right (of_decide_eq_false hafter)
  · exact List.IsChain.drop hh place
  · intro last hlast new hnew hnumber hnumber'
    obtain rfl : ⟨stamp, motion⟩ = new := Option.some.inj hnew
    obtain ⟨i, rfl⟩ : ∃ i, place = i + 1 := by
      cases place with
      | zero => simp at hlast
      | succ i => exact ⟨i, rfl⟩
    have hbefore := hplace.before i rfl
    have hle := hplace.le_length
    rw [Option.mem_def, List.getLast?_take, if_neg (Nat.succ_ne_zero i), Nat.add_sub_cancel,
      List.getElem?_eq_getElem hle, Option.some_or] at hlast
    rw [List.getElem?_eq_getElem hle, hlast, Option.any_some] at hbefore
    exact of_decide_eq_true hbefore

/-- **Where no stamp that is not a number is left, the history is in order.** -/
theorem Ascends.isOrdered (hh : h.Ascends) (hnumbers : h.NumberStamped) : h.IsOrdered := by
  have htrans : IsTrans (Sample T) fun a b => a.stamp ≤ b.stamp := ⟨fun _ _ _ => Double.le_trans⟩
  refine ⟨hnumbers, List.isChain_iff_pairwise.1 ?_⟩
  exact hh.imp_of_mem_imp fun a b ha hb hle => hle (hnumbers a ha) (hnumbers b hb)

/-- The samples in the order of their stamps, those with the same stamp as they came. -/
def inOrder (samples : List (Sample T)) : List (Sample T) :=
  samples.mergeSort fun a b => a.stamp ≤ b.stamp

/-- Samples that are stamped with numbers are sorted among themselves. -/
theorem inOrder_map_val (samples : List { s : Sample T // IsNumber s.stamp }) :
    inOrder (samples.map Subtype.val) =
      (samples.mergeSort fun a b => a.1.stamp ≤ b.1.stamp).map Subtype.val := by
  rw [List.map_mergeSort (s := fun a b : Sample T => decide (a.stamp ≤ b.stamp))]
  · rfl
  · exact fun _ _ _ _ => rfl

/-- The order of stamps is transitive where they are numbers. -/
theorem stamp_le_trans (a b c : { s : Sample T // IsNumber s.stamp }) :
    decide (a.1.stamp ≤ b.1.stamp) = true → decide (b.1.stamp ≤ c.1.stamp) = true →
      decide (a.1.stamp ≤ c.1.stamp) = true := fun hab hbc =>
  decide_eq_true (Double.le_trans (of_decide_eq_true hab) (of_decide_eq_true hbc))

/-- The order of the samples by their stamps is total where these are numbers. -/
theorem stamp_le_total (a b : { s : Sample T // IsNumber s.stamp }) :
    (decide (a.1.stamp ≤ b.1.stamp) || decide (b.1.stamp ≤ a.1.stamp)) = true := by
  simpa using Double.le_or_le a.2 b.2

/-- Samples in order do not descend. -/
theorem pairwise_inOrder {samples : List (Sample T)}
    (hnumbers : ∀ s ∈ samples, IsNumber s.stamp) :
    (inOrder samples).Pairwise fun a b => a.stamp ≤ b.stamp := by
  lift samples to List { s : Sample T // IsNumber s.stamp } using hnumbers
  rw [inOrder_map_val, List.pairwise_map]
  exact (List.pairwise_mergeSort stamp_le_trans stamp_le_total samples).imp of_decide_eq_true

/-- Where no two stamps are the same the order does not depend on how the samples came. -/
theorem inOrder_eq_of_perm {samples others : List (Sample T)}
    (hnumbers : ∀ s ∈ samples, IsNumber s.stamp)
    (hdistinct : samples.Pairwise fun a b => (a.stamp == b.stamp) = false)
    (hperm : samples.Perm others) : inOrder samples = inOrder others := by
  have hsymm : Std.Symm fun a b : Sample T => (a.stamp == b.stamp) = false := by
    refine ⟨fun a b hab => ?_⟩
    rw [Bool.eq_false_iff, Ne, Double.beq_iff] at hab ⊢
    exact fun hba => hab hba.symm
  have hothers : ∀ s ∈ others, IsNumber s.stamp := fun s hs => hnumbers s (hperm.mem_iff.2 hs)
  refine List.Perm.eq_of_pairwise (fun a b ha hb hab hba => ?_) (pairwise_inOrder hnumbers)
    (pairwise_inOrder hothers)
    ((List.mergeSort_perm _ _).trans (hperm.trans (List.mergeSort_perm _ _).symm))
  by_contra hne
  have ha' : a ∈ samples := List.mem_mergeSort.1 ha
  have hb' : b ∈ samples := hperm.mem_iff.2 (List.mem_mergeSort.1 hb)
  have hdiffer := hdistinct.forall ha' hb' hne
  rw [(Double.beq_iff a.stamp b.stamp).2 ⟨hab, hba⟩] at hdiffer
  cases hdiffer

/-- One more sample takes its place behind those stamped at most as late. -/
theorem inOrder_concat {samples : List (Sample T)} (hnumbers : ∀ s ∈ samples, IsNumber s.stamp)
    {new : Sample T} (hnew : IsNumber new.stamp) :
    inOrder (samples ++ [new]) = placeBehind (·.stamp ≤ new.stamp) new (inOrder samples) := by
  lift samples to List { s : Sample T // IsNumber s.stamp } using hnumbers
  lift new to { s : Sample T // IsNumber s.stamp } using hnew
  rw [← List.map_singleton, ← List.map_append, inOrder_map_val, inOrder_map_val,
    mergeSort_concat stamp_le_trans stamp_le_total, ← map_placeBehind]
  rfl

/-- The history after recording some samples one by one. -/
def recordAll (h : History T) (length : Nat) (samples : List (Sample T)) : History T :=
  samples.foldl (fun h s => h.record length s.stamp s.motion) h

/-- **A history holds the last ones of the stable sort of all samples recorded.** -/
theorem samples_recordAll {samples : List (Sample T)} (hnumbers : ∀ s ∈ samples, IsNumber s.stamp)
    (length : Nat) :
    (recordAll {} length samples).IsOrdered ∧
      (recordAll {} length samples).samples = (inOrder samples).rtake length := by
  induction samples using List.reverseRecOn with
  | nil =>
    refine ⟨isOrdered_empty, ?_⟩
    rw [inOrder, List.mergeSort_nil, List.rtake_nil]
    rfl
  | append_singleton samples new ih =>
    obtain ⟨hsamples, hnew⟩ := List.forall_mem_append.1 hnumbers
    obtain ⟨hordered, hkept⟩ := ih hsamples
    have hnumber : IsNumber new.stamp := hnew new List.mem_cons_self
    have hstep : recordAll {} length (samples ++ [new]) =
        (recordAll {} length samples).record length new.stamp new.motion := by
      rw [recordAll, List.foldl_append]
      rfl
    rw [hstep]
    refine ⟨hordered.record length hnumber new.motion, ?_⟩
    rw [hordered.samples_record, hkept, inOrder_concat hsamples hnumber]
    exact rtake_placeBehind (closed_of_sorted (pairwise_inOrder hsamples) new.stamp) new length

end History

end CollisionWatch
