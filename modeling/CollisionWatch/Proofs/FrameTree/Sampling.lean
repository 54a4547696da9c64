import CollisionWatch.Proofs.Double

/-!
# Sampling a history

The search for a place among samples is a binary search on either side of the seam of a ring. What
it finds has a local description that asks nothing of the order of the samples: the item before the
place satisfies the predicate, and the item at the place does not (`IsBoundary`). From this alone a
time that lies between the first and the last stamp is always bracketed by two samples, provided
that the first stamp can be compared with it at all (`StartsWithNumber.exists_at?_eq_ok`). Which of
the other stamps are numbers does not matter.
-/

namespace CollisionWatch

open Double (IsNumber)

section boundary

variable {α : Type} {p : α → Bool}

/-- The place `k` lies between an item that satisfies `p` and one that does not, where there are
such items. -/
structure IsBoundary (p : α → Bool) (xs : List α) (k : Nat) : Prop where
  /-- The place lies within the list or at its end. -/
  le_length : k ≤ xs.length
  /-- The item before the place satisfies `p`. -/
  before : ∀ i, i + 1 = k → (xs[i]?).any p = true
  /-- The item at the place does not. -/
  after : (xs[k]?).any p = false

/-- A list that starts with an item satisfying `p` has no boundary at its start. -/
theorem IsBoundary.pos {xs : List α} {k : Nat} (h : IsBoundary p xs k)
    (hfirst : xs.head?.any p = true) : 0 < k := by
  rcases Nat.eq_zero_or_pos k with rfl | hk
  · have hafter := h.after
    rw [← List.head?_eq_getElem?, hfirst] at hafter
    exact absurd hafter (by decide)
  · exact hk

/-- A list that ends with an item not satisfying `p` has no boundary at its end. -/
theorem IsBoundary.lt_length {xs : List α} {k : Nat} (h : IsBoundary p xs k)
    (hlast : xs.getLast?.any (fun x => !p x) = true) : k < xs.length := by
  refine Nat.lt_of_le_of_ne h.le_length fun hk => ?_
  rw [List.getLast?_eq_getElem?] at hlast
  have hpos : 0 < xs.length := by
    by_contra hzero
    rw [List.getElem?_eq_none (by omega)] at hlast
    simp at hlast
  have hbefore := h.before (xs.length - 1) (by omega)
  rw [List.getElem?_eq_getElem (by omega)] at hlast hbefore
  simp_all

/-- A boundary of what follows the first `n` items is one of the whole list, `n` places on. -/
theorem IsBoundary.of_drop {xs : List α} {n k : Nat} (hn : n ≤ xs.length)
    (h : IsBoundary p (xs.drop n) k) (hk : 0 < k) : IsBoundary p xs (n + k) := by
  refine ⟨?_, fun i hi => ?_, ?_⟩
  · have hle := h.le_length
    rw [List.length_drop] at hle
    omega
  · obtain ⟨j, rfl⟩ : ∃ j, k = j + 1 := ⟨k - 1, by omega⟩
    obtain rfl : i = n + j := by omega
    simpa [List.getElem?_drop] using h.before j rfl
  · simpa [List.getElem?_drop] using h.after

/-- A boundary of the first `n` items is one of the whole list, if the last of them or the item
after them does not satisfy `p`. -/
theorem IsBoundary.of_take {xs : List α} {n m k : Nat} (h : IsBoundary p (xs.take n) k)
    (hmn : m ≤ n) (hnm : n ≤ m + 1) (hm : (xs[m]?).any p = false) : IsBoundary p xs k := by
  have hle := h.le_length
  rw [List.length_take] at hle
  have hbefore : ∀ i, i + 1 = k → (xs[i]?).any p = true := by
    intro i hi
    have hi' := h.before i hi
    rwa [List.getElem?_take_of_lt (by omega)] at hi'
  refine ⟨by omega, hbefore, ?_⟩
  rcases Nat.lt_or_ge k n with hk | hk
  · have hafter := h.after
    rwa [List.getElem?_take_of_lt hk] at hafter
  · rcases Nat.lt_or_ge m k with hmk | hmk
    · have hmem := hbefore m (by omega)
      rw [hm] at hmem
      exact absurd hmem (by decide)
    · obtain rfl : k = m := by omega
      exact hm

/-- The binary search finds a boundary. -/
theorem isBoundary_boundary (p : α → Bool) (xs : List α) : IsBoundary p xs (boundary p xs) := by
  induction xs using boundary.induct p with
  | case1 => exact ⟨by simp [boundary], by simp [boundary], by simp⟩
  | case2 x hx => exact ⟨by simp [boundary, hx], by simp [boundary, hx], by simp [boundary, hx]⟩
  | case3 x hx => exact ⟨by simp [boundary, hx], by simp [boundary, hx], by simp [boundary, hx]⟩
  | case4 x y rest xs half hhalf ih =>
    rw [boundary, if_pos hhalf]
    refine ih.of_drop (Nat.div_le_self _ _) (ih.pos ?_)
    rw [List.head?_drop]
    exact hhalf
  | case5 x y rest xs half hhalf ih =>
    rw [boundary, if_neg hhalf]
    -- The lower half keeps the item in the middle when the length is odd.
    refine ih.of_take (m := half) (by omega) (by omega) ?_
    simpa using hhalf

end boundary

namespace History

variable {T : Type}

/-- The search looks at one side of the seam only, and finds a boundary of all samples. -/
theorem isBoundary_boundary (h : History T) (p : Sample T → Bool) :
    IsBoundary p h.samples (h.boundary p) := by
  simp only [boundary]
  split
  · rename_i hbeyond
    have hle : h.reach ≤ h.samples.length := by
      by_contra hlt
      rw [List.drop_eq_nil_of_le (by omega)] at hbeyond
      simp at hbeyond
    have hdrop := CollisionWatch.isBoundary_boundary p (h.samples.drop h.reach)
    rw [List.length_take_of_le hle]
    exact hdrop.of_drop hle (hdrop.pos hbeyond)
  · rename_i hbeyond
    refine (CollisionWatch.isBoundary_boundary p (h.samples.take h.reach)).of_take
      (m := h.reach) le_rfl (Nat.le_succ _) ?_
    rw [← List.head?_drop]
    simpa using hbeyond

/-- Between a first sample that satisfies `p` and a last one that does not, the search finds two
neighbours. -/
theorem exists_boundary_eq_succ {h : History T} {p : Sample T → Bool}
    (hfirst : h.samples.head?.any p = true)
    (hlast : h.samples.getLast?.any (fun s => !p s) = true) :
    ∃ i, h.boundary p = i + 1 ∧ i + 1 < h.samples.length := by
  have hb := h.isBoundary_boundary p
  have hpos := hb.pos hfirst
  have hlt := hb.lt_length hlast
  exact ⟨h.boundary p - 1, by omega, by omega⟩

/-- All stamps of a history are numbers. -/
def NumberStamped (h : History T) : Prop := ∀ s ∈ h.samples, IsNumber s.stamp

/-- Recording brings no samples but the new one. -/
theorem mem_samples_record {h : History T} {length : Nat} {stamp : Float} {motion : T}
    {s : Sample T} (hs : s ∈ (h.record length stamp motion).samples) :
    s = ⟨stamp, motion⟩ ∨ s ∈ h.samples := by
  simp only [History.record, samples_forget, samples_insert] at hs
  rcases List.mem_append.1 (List.mem_of_mem_drop hs) with hs | hs
  · exact .inr (List.mem_of_mem_take hs)
  · exact (List.mem_cons.1 hs).imp_right List.mem_of_mem_drop

/-- Recording brings no stamps but the new one. -/
theorem NumberStamped.record {h : History T} (hh : h.NumberStamped) (length : Nat) {stamp : Float}
    (hstamp : IsNumber stamp) (motion : T) : (h.record length stamp motion).NumberStamped := by
  intro s hs
  rcases mem_samples_record hs with rfl | hs
  · exact hstamp
  · exact hh s hs

/-- The oldest sample, if there is one, is stamped with a number. -/
def StartsWithNumber (h : History T) : Prop := ∀ first ∈ h.samples.head?, IsNumber first.stamp

/-- A history whose stamps are numbers starts with one. -/
theorem NumberStamped.startsWithNumber {h : History T} (hh : h.NumberStamped) :
    h.StartsWithNumber :=
  fun first hfirst => hh first (List.mem_of_head? hfirst)

/-- **A history that starts with a number can be sampled at any time.** -/
theorem StartsWithNumber.exists_at?_eq_ok [Motion T] {h : History T} (hh : h.StartsWithNumber)
    (time tolerance : Float) : ∃ motion, h.at? time tolerance = .ok motion := by
  unfold at?
  split
  · exact ⟨_, rfl⟩
  · rename_i hfinite
    have htime : IsNumber time := Double.isNumber_of_isFinite (by simpa using hfinite)
    split
    · rename_i first last hfirst hlast
      split
      · exact ⟨_, rfl⟩
      · rename_i hnotFirst
        split
        · exact ⟨_, rfl⟩
        · rename_i hnotLast
          -- The last stamp need not be a number: it does not come before the time either way.
          have hle : first.stamp ≤ time :=
            (Double.le_or_le (hh first hfirst) htime).resolve_right hnotFirst
          obtain ⟨i, hi, hlt⟩ := h.exists_boundary_eq_succ (p := fun s => s.stamp ≤ time)
            (by simp [hfirst, hle]) (by simp [hlast, hnotLast])
          rw [hi]
          dsimp only
          rw [List.getElem?_eq_getElem hlt, List.getElem?_eq_getElem (Nat.lt_of_succ_lt hlt)]
          exact ⟨_, rfl⟩
    · exact ⟨_, rfl⟩

end History

end CollisionWatch
