import CollisionWatch.Decimal.Reading
import CollisionWatch.Decimal.Style
import Mathlib

/-!
# Proper numerals

A numeral is proper if it stands for a number in every format: it has digits where digits are due,
and no zero in front of others (`Numeral.IsProper`).  Whatever float is written, in whatever style,
its numeral is proper (`Style.isProper_numeral`).  The digits of a natural number spell it
(`natOfDigits_digitsOfNat`), and digits are read up to the first character that is none
(`spanDigits_append`).
-/

namespace CollisionWatch.Decimal

/-! ## Digits -/

/-- Nothing but digits, and at least one. -/
structure AreDigits (digits : List Char) : Prop where
  /-- There is one. -/
  ne_nil : digits ≠ []
  /-- All are digits. -/
  isDigit : ∀ c ∈ digits, c.isDigit = true

/-- The digits are ten characters in a row. -/
theorem toNat_of_isDigit {c : Char} (h : c.isDigit = true) : 48 ≤ c.toNat ∧ c.toNat ≤ 57 := by
  simp only [Char.isDigit, Bool.and_eq_true, decide_eq_true_eq, ge_iff_le,
    UInt32.le_iff_toNat_le] at h
  exact h

/-- A text does not go on with a character of a kind. -/
def StopsBefore (p : Char → Bool) (rest : List Char) : Prop := ∀ c ∈ rest.head?, p c = false

/-- At the end everything stops. -/
theorem stopsBefore_nil (p : Char → Bool) : StopsBefore p [] := by
  simp [StopsBefore]

/-- A text stops a reader if its first character does. -/
theorem stopsBefore_cons {p : Char → Bool} {c : Char} {rest : List Char} :
    StopsBefore p (c :: rest) ↔ p c = false := by
  simp [StopsBefore]

/-- The longest part of a kind in front of a text is found whole. -/
theorem span_append {p : Char → Bool} {part rest : List Char} (hpart : ∀ c ∈ part, p c = true)
    (hrest : StopsBefore p rest) : (part ++ rest).span p = (part, rest) := by
  have hnone : rest.takeWhile p = [] ∧ rest.dropWhile p = rest := by
    cases rest with
    | nil => exact ⟨rfl, rfl⟩
    | cons c rest => simp [stopsBefore_cons.1 hrest]
  rw [List.span_eq_takeWhile_dropWhile, List.takeWhile_append_of_pos hpart,
    List.dropWhile_append_of_pos hpart, hnone.1, hnone.2, List.append_nil]

/-- Digits are read up to the first character that is none. -/
theorem spanDigits_append {digits rest : List Char} (h : AreDigits digits)
    (hrest : StopsBefore Char.isDigit rest) : spanDigits (digits ++ rest) = (digits, rest) :=
  span_append h.isDigit hrest

/-- A number is written in digits. -/
theorem areDigits_digitsOfNat (n : Nat) : AreDigits (digitsOfNat n) :=
  ⟨Nat.toDigits_ne_nil, fun _ hc => Nat.isDigit_of_mem_toDigits (by decide) (by decide) hc⟩

/-- The digits of a number spell it. -/
theorem natOfDigits_digitsOfNat (n : Nat) : natOfDigits (digitsOfNat n) = n :=
  Nat.ofDigitChars_toDigits (by decide) (by decide)

/-- Only the digits of zero start with a zero. -/
theorem head?_digitsOfNat {n : Nat} (hn : n ≠ 0) : (digitsOfNat n).head? ≠ some '0' := by
  induction n using Nat.base_induction 10 (by decide) with
  | single m hm =>
    rw [digitsOfNat, Nat.toDigits_of_lt_base hm]
    simpa using hn
  | digit m k hk hm ih =>
    rw [digitsOfNat, ← Nat.toDigits_append_toDigits (by decide) hm hk,
      List.head?_append_of_ne_nil _ Nat.toDigits_ne_nil]
    exact ih hm.ne'

/-- A zero stands in front of other digits. -/
def HasLeadingZero (digits : List Char) : Prop := digits.head? = some '0' ∧ digits.length ≠ 1

/-- No zero leads them, unless it is the only one. -/
theorem not_hasLeadingZero_digitsOfNat (n : Nat) : ¬ HasLeadingZero (digitsOfNat n) := by
  rintro ⟨hhead, hlength⟩
  by_cases hn : n = 0
  · subst hn
    exact hlength rfl
  · exact head?_digitsOfNat hn hhead

/-! ## Numerals -/

/-- A numeral that stands for a number in every format. -/
structure Numeral.IsProper (n : Numeral) : Prop where
  /-- There are digits before the point. -/
  whole : AreDigits n.whole
  /-- No zero stands in front of them. -/
  noLeadingZero : ¬ HasLeadingZero n.whole
  /-- There are digits after the point, if there is a point. -/
  fraction : ∀ digits ∈ n.fraction, AreDigits digits
  /-- There are digits in the exponent, if there is one. -/
  exponent : ∀ e ∈ n.exponent, AreDigits e.digits

/-- The numeral of a number is proper. -/
theorem Numeral.isProper_ofNat (n : Nat) : (Numeral.ofNat n).IsProper where
  whole := areDigits_digitsOfNat n
  noLeadingZero := not_hasLeadingZero_digitsOfNat n
  fraction := by simp [Numeral.ofNat]
  exponent := by simp [Numeral.ofNat]

/-! ## The characters of a numeral -/

/-- The sign as written. -/
def signChars (negative : Bool) : List Char := if negative then ['-'] else []

/-- The fraction as written, after its point. -/
def pointChars : Option (List Char) → List Char
  | some digits => '.' :: digits
  | none => []

/-- The exponent as written, after its mark. -/
def powerChars : Option Exponent → List Char
  | some e => e.text
  | none => []

/-- The text of a numeral is that of its parts. -/
theorem Numeral.chars_eq (n : Numeral) :
    n.chars =
      signChars n.negative ++ (n.whole ++ (pointChars n.fraction ++ powerChars n.exponent)) := by
  simp only [chars, signChars, List.append_assoc]
  rfl

/-- What neither a point nor the rest goes on with stops before the fraction. -/
theorem stopsBefore_pointChars {p : Char → Bool} {rest : List Char} (fraction : Option (List Char))
    (hpoint : p '.' = false) (hrest : StopsBefore p rest) :
    StopsBefore p (pointChars fraction ++ rest) := by
  cases fraction with
  | none => exact hrest
  | some digits => exact stopsBefore_cons.2 hpoint

/-- What neither an `e` nor the rest goes on with stops before the exponent. -/
theorem stopsBefore_powerChars {p : Char → Bool} {rest : List Char} (exponent : Option Exponent)
    (hmark : p 'e' = false) (hrest : StopsBefore p rest) :
    StopsBefore p (powerChars exponent ++ rest) := by
  cases exponent with
  | none => exact hrest
  | some e => exact stopsBefore_cons.2 hmark

/-- A text stops before a part of what it stops before. -/
theorem StopsBefore.mono {p q : Char → Bool} {rest : List Char} (h : StopsBefore q rest)
    (hpq : ∀ c, p c = true → q c = true) : StopsBefore p rest := fun c hc => by
  have hq := h c hc
  by_contra hp
  rw [hpq c (by simpa using hp)] at hq
  cases hq

namespace Shortest

/-- What stands for a float on a grid is above zero. -/
theorem ne_zero_of_onGrid {tie : Tie} {gap : Gap} {k : Int} {n : Nat}
    (h : onGrid tie gap k = some n) : n ≠ 0 := by
  unfold onGrid at h
  simp only at h
  split at h
  · cases h
  · -- the lower neighbour fits only if it is above zero
    rename_i hlow hhigh
    rw [Bool.and_eq_true, decide_eq_true_eq] at hlow
    cases h
    exact hlow.1.ne'
  · cases h
    exact Nat.succ_ne_zero _
  · rename_i hlow hhigh
    rw [Bool.and_eq_true, decide_eq_true_eq] at hlow
    split_ifs at h <;> cases tie <;> cases h <;> omega

/-- A search among grids that finds nothing ends below the last one. -/
theorem exponent_search {tie : Tie} {gap : Gap} {grids : Nat} {k : Int}
    (h : (search tie gap grids k).coefficient = 0) :
    (search tie gap grids k).exponent = k - grids := by
  induction grids generalizing k with
  | zero => simp [search]
  | succ grids ih =>
    rw [search] at h ⊢
    cases hgrid : onGrid tie gap k with
    | none =>
      rw [hgrid] at h
      rw [ih h]
      push_cast
      ring
    | some n =>
      rw [hgrid] at h
      exact absurd h (ne_zero_of_onGrid hgrid)

/-- Should no digits be found, the number is below one. -/
theorem exponent_digits_neg {tie : Tie} {m : Nat} {e : Int} {narrow : Bool}
    (h : (digits tie m e narrow).coefficient = 0) : (digits tie m e narrow).exponent < 0 := by
  unfold digits at h ⊢
  rw [exponent_search h]
  push_cast
  omega

end Shortest

/-! ## Numerals of floats -/

namespace Style

/-- A single zero is digits too. -/
theorem areDigits_zero : AreDigits ['0'] := ⟨by simp, by simp⟩

/-- Where a fraction is written it has digits. -/
theorem areDigits_fractionOf {keepsPoint : Bool} {digits : List Char}
    (h : ∀ c ∈ digits, c.isDigit = true) :
    ∀ fraction ∈ fractionOf keepsPoint digits, AreDigits fraction := by
  intro fraction hfraction
  cases digits with
  | nil =>
    cases keepsPoint with
    | false => cases hfraction
    | true =>
      cases hfraction
      exact areDigits_zero
  | cons c rest =>
    cases hfraction
    exact ⟨List.cons_ne_nil c rest, h⟩

/-- Around its point the digits of a number stay digits, without a new zero in front. -/
theorem aroundPoint_cases {n : Nat} {places : Int} (h : n = 0 → places ≤ 0) :
    let (whole, fraction) := aroundPoint (digitsOfNat n) places
    AreDigits whole ∧ ¬ HasLeadingZero whole ∧ ∀ c ∈ fraction, c.isDigit = true := by
  have hdigits := areDigits_digitsOfNat n
  have hzero : ∀ count, ∀ c ∈ List.replicate count '0', c.isDigit = true := by
    intro count c hc
    rw [List.eq_of_mem_replicate hc]
    rfl
  unfold aroundPoint
  split_ifs with hplaces hlength
  · refine ⟨areDigits_zero, by simp [HasLeadingZero], ?_⟩
    intro c hc
    exact (List.mem_append.1 hc).elim (hzero _ c) (hdigits.isDigit c)
  · refine ⟨⟨by simp [hdigits.ne_nil], ?_⟩, ?_, by simp⟩
    · intro c hc
      exact (List.mem_append.1 hc).elim (hdigits.isDigit c) (hzero _ c)
    · rintro ⟨hhead, -⟩
      rw [List.head?_append_of_ne_nil _ hdigits.ne_nil] at hhead
      exact head?_digitsOfNat (fun hn => hplaces (h hn)) hhead
  · refine ⟨⟨?_, fun c hc => hdigits.isDigit c (List.mem_of_mem_take hc)⟩, ?_,
      fun c hc => hdigits.isDigit c (List.mem_of_mem_drop hc)⟩
    · simp [hdigits.ne_nil]
      omega
    · rintro ⟨hhead, -⟩
      rw [List.head?_take, if_neg (by omega)] at hhead
      exact head?_digitsOfNat (fun hn => hplaces (h hn)) hhead

/-- The numeral of a decimal is proper. -/
theorem isProper_ofScaled (style : Style) (negative : Bool) {s : Scaled}
    (h : s.coefficient = 0 → s.exponent < 0) : (style.ofScaled negative s).IsProper := by
  unfold ofScaled
  extract_lets digits leading withExponent
  have hdigits : AreDigits digits := areDigits_digitsOfNat s.coefficient
  split_ifs with hexponent
  · refine ⟨⟨by simp [hdigits.ne_nil], ?_⟩, ?_, ?_, ?_⟩
    · exact fun c hc => hdigits.isDigit c (List.mem_of_mem_take hc)
    · rintro ⟨-, hlength⟩
      have hpos := List.length_pos_iff.2 hdigits.ne_nil
      simp only [List.length_take] at hlength
      omega
    · exact areDigits_fractionOf fun c hc => hdigits.isDigit c (List.mem_of_mem_drop hc)
    · rintro e ⟨⟩
      exact areDigits_digitsOfNat _
  · have hplaces : s.coefficient = 0 → leading + 1 ≤ 0 := by
      intro hzero
      have hneg := h hzero
      have hone : digits.length = 1 := by
        simp only [digits, hzero]
        rfl
      have hleading : leading = digits.length - 1 + s.exponent := rfl
      omega
    obtain ⟨hwhole, hleading, hfraction⟩ := aroundPoint_cases hplaces
    exact ⟨hwhole, hleading, areDigits_fractionOf hfraction, by simp⟩

/-- **The numeral of a float is proper.** -/
theorem isProper_numeral {style : Style} {x : Binary} {n : Numeral} (h : style.numeral x = some n) :
    n.IsProper := by
  unfold numeral at h
  split at h
  · cases h
    have hfraction := @areDigits_fractionOf style.keepsPoint [] (by simp)
    exact ⟨areDigits_zero, by simp [zero, HasLeadingZero], hfraction, by simp [zero]⟩
  · cases h
    exact isProper_ofScaled style _ Shortest.exponent_digits_neg
  · cases h

end Style

end CollisionWatch.Decimal
