import CollisionWatch.Wire.Instant
import CollisionWatch.Proofs.Calendar
import CollisionWatch.Proofs.Decimal.Digits

/-!
# Instants written and read back

An instant whose day can be written is read back from its text (`readInstant?_text`): the text names
the date, the time of day and the decimals of the second, and nothing else is left of it.
-/

namespace CollisionWatch

/-- An instant that has a text: its day exists in a year that can be written, and a leap second is
the last one of a minute. -/
structure Instant.IsWritable (t : Instant) : Prop where
  /-- The day can be written. -/
  date : (Date.ofDays (t.seconds / Wire.secondsPerDay)).isValid = true
  /-- The nanoseconds are those of one second, or of a leap second. -/
  nanoseconds : t.nanoseconds < 1000000000 ∨ (t.seconds % 60 = 59 ∧ t.nanoseconds < 2000000000)

end CollisionWatch

namespace CollisionWatch.Wire

open Decimal Text

/-! ## Numbers -/

/-- A padded number is all digits. -/
theorem areDigits_padded (width n : Nat) : AreDigits (padded width n) := by
  have h := areDigits_digitsOfNat n
  refine ⟨by simp [padded, h.ne_nil], fun c hc => ?_⟩
  rcases List.mem_append.1 hc with hc | hc
  · rw [List.eq_of_mem_replicate hc]
    rfl
  · exact h.isDigit c hc

/-- Padding does not change a number. -/
theorem natOfDigits_padded (width n : Nat) : natOfDigits (padded width n) = n := by
  have hzeros : ∀ count, (List.replicate count '0').foldl (fun n c => 10 * n + digitValue c) 0 = 0 := by
    intro count
    induction count with
    | zero => rfl
    | succ count ih => simpa [List.replicate_succ, digitValue] using ih
  have hdigits := natOfDigits_digitsOfNat n
  rw [natOfDigits] at hdigits
  rw [natOfDigits, padded, List.foldl_append, hzeros, hdigits]

/-- A number that is not too large is padded to its width. -/
theorem length_padded {width n : Nat} (hwidth : 0 < width) (h : n < 10 ^ width) :
    (padded width n).length = width := by
  have hle : (digitsOfNat n).length ≤ width := (Nat.length_toDigits_le_iff (by decide) hwidth).2 h
  rw [padded, List.length_append, List.length_replicate]
  omega

/-! ## Parts of an instant -/

/-- Where no blank is, none is trimmed. -/
theorem trimStart_cons {c : Char} (h : isBlank c = false) (cs : List Char) :
    trimStart (c :: cs) = c :: cs := by
  simp [trimStart, h]

/-- A digit is no blank. -/
theorem isBlank_digit {c : Char} (h : c.isDigit = true) : isBlank c = false := by
  have hrange := toNat_of_isDigit h
  simp only [isBlank, Bool.or_eq_false_iff, Bool.and_eq_false_iff, decide_eq_false_iff_not,
    beq_eq_false_iff_ne]
  omega

/-- No blank stands in front of digits. -/
theorem trimStart_digits {digits : List Char} (h : AreDigits digits) (rest : List Char) :
    trimStart (digits ++ rest) = digits ++ rest := by
  obtain ⟨c, more, rfl⟩ := List.exists_cons_of_ne_nil h.ne_nil
  exact trimStart_cons (isBlank_digit (h.isDigit c (by simp))) _

/-- A number of few enough digits is read whole. -/
theorem readField?_append {most : Nat} {digits rest : List Char} (h : AreDigits digits)
    (hmost : digits.length ≤ most) (hrest : StopsBefore Char.isDigit rest) :
    readField? most (digits ++ rest) = some (natOfDigits digits, rest) := by
  simp [readField?, trimStart_digits h, spanDigits_append h hrest, List.take_of_length_le hmost,
    h.ne_nil]

/-- A number is read back from a field of its width. -/
theorem readField?_padded {width n : Nat} (hwidth : 0 < width) (hn : n < 10 ^ width)
    {rest : List Char} (hrest : StopsBefore Char.isDigit rest) :
    readField? width (padded width n ++ rest) = some (n, rest) := by
  rw [readField?_append (areDigits_padded width n) (length_padded hwidth hn).le hrest,
    natOfDigits_padded]

/-- A mark is read where it stands. -/
theorem readMark?_cons {mark : Char} (h : isBlank mark = false) (rest : List Char) :
    readMark? mark (mark :: rest) = some rest := by
  simp [readMark?, trimStart_cons h]

/-- After a sign all digits belong to the year. -/
theorem readYear?_signed (negative : Bool) (n : Nat) {rest : List Char}
    (hrest : StopsBefore Char.isDigit rest) :
    readYear? ((if negative then '-' else '+') :: (padded 4 n ++ rest)) =
      some (if negative then -(n : Int) else n, rest) := by
  have hspan := spanDigits_append (areDigits_padded 4 n) hrest
  have hvalue := natOfDigits_padded 4 n
  obtain ⟨c, more, hpadded⟩ := List.exists_cons_of_ne_nil (areDigits_padded 4 n).ne_nil
  rw [hpadded, List.cons_append] at hspan ⊢
  rw [hpadded] at hvalue
  cases negative
  · simp [readYear?, trimStart_cons (by decide : isBlank '+' = false), hspan, hvalue]
  · simp [readYear?, trimStart_cons (by decide : isBlank '-' = false), hspan, hvalue]

/-- A year is read back, whatever its sign. -/
theorem readYear?_yearChars (year : Int) {rest : List Char} (hrest : StopsBefore Char.isDigit rest) :
    readYear? (yearChars year ++ rest) = some (year, rest) := by
  unfold yearChars
  split_ifs with hshort hneg
  · -- four digits
    have hfield := @readField?_padded 4 year.toNat (by decide) (by omega) rest hrest
    have hfirst := areDigits_padded 4 year.toNat
    obtain ⟨c, more, hpadded⟩ := List.exists_cons_of_ne_nil hfirst.ne_nil
    have hc : c.isDigit = true := hfirst.isDigit c (by simp [hpadded])
    have hplus : c ≠ '+' := by rintro rfl; cases hc
    have hminus : c ≠ '-' := by rintro rfl; cases hc
    rw [hpadded, List.cons_append] at hfield ⊢
    have hyear : (year.toNat : Int) = year := by omega
    simp [readYear?, trimStart_cons (isBlank_digit hc), hplus, hminus, hfield, hyear]
  · have hyear : -(year.natAbs : Int) = year := by omega
    have hsigned := readYear?_signed true year.natAbs hrest
    rwa [if_pos rfl, if_pos rfl, hyear] at hsigned
  · have hyear : (year.natAbs : Int) = year := by omega
    have hsigned := readYear?_signed false year.natAbs hrest
    rwa [if_neg Bool.false_ne_true, if_neg Bool.false_ne_true, hyear] at hsigned

/-- Decimals in full groups of three spell the nanoseconds. -/
theorem readDecimals?_padded {width n : Nat} (hwidth : 0 < width) (hmost : width ≤ 9)
    (hn : n < 10 ^ width) (rest : List Char) :
    readDecimals? ('.' :: (padded width n ++ 'Z' :: rest)) =
      some (n * 10 ^ (9 - width), 'Z' :: rest) := by
  have hspan := spanDigits_append (areDigits_padded width n)
    (stopsBefore_cons.2 rfl : StopsBefore Char.isDigit ('Z' :: rest))
  have hvalue := natOfDigits_padded width n
  have hlength := length_padded hwidth hn
  have htake : (padded width n).take 9 = padded width n := List.take_of_length_le (by omega)
  obtain ⟨c, more, hpadded⟩ := List.exists_cons_of_ne_nil (areDigits_padded width n).ne_nil
  rw [hpadded] at htake hspan hvalue hlength
  rw [List.cons_append] at hspan
  simp only [readDecimals?, hpadded, List.cons_append, hspan, htake, hvalue, hlength]
  rfl

/-- The parts of a second are read back, down to the nanosecond. -/
theorem readDecimals?_decimals {nanoseconds : Nat} (h : nanoseconds < 1000000000) (rest : List Char) :
    readDecimals? (decimals nanoseconds ++ 'Z' :: rest) = some (nanoseconds, 'Z' :: rest) := by
  unfold decimals
  split_ifs with hzero hmilli hmicro
  · rw [hzero]
    rfl
  · rw [List.cons_append, readDecimals?_padded (by decide) (by decide) (by omega)]
    congr 2
    omega
  · rw [List.cons_append, readDecimals?_padded (by decide) (by decide) (by omega)]
    congr 2
    omega
  · rw [List.cons_append, readDecimals?_padded (by decide) (by decide) (by omega)]
    congr 2
    omega

/-! ## Instants -/

/-- A computation goes on with what its first part gives. -/
theorem bind_eq_some {α β : Type} {read : Option α} {f : α → Option β} {a : α} {b : β}
    (h : read = some a) (hf : f a = some b) : (read >>= f) = some b := by
  rw [h]
  exact hf

/-- The letter between a date and a time separates them. -/
theorem readSeparator?_cons (rest : List Char) : readSeparator? ('T' :: rest) = some rest := rfl

/-- The letter behind the time says that there is no offset. -/
theorem readOffset?_utc : readOffset? (trimStart ['Z']) = some (0, []) := by
  rw [trimStart_cons (by decide)]
  rfl

/-- Two digits of a number below a hundred are read whole in front of a mark. -/
theorem readField?_pair {n : Nat} (hn : n < 100) {mark : Char} (hmark : mark.isDigit = false)
    (rest : List Char) : readField? 2 (padded 2 n ++ mark :: rest) = some (n, mark :: rest) :=
  readField?_padded (by decide) hn (stopsBefore_cons.2 hmark)

/-- What follows the seconds is no digit. -/
theorem stopsBefore_decimals (nanoseconds : Nat) (rest : List Char) :
    StopsBefore Char.isDigit (decimals nanoseconds ++ 'Z' :: rest) := by
  unfold decimals
  split_ifs <;> simp [StopsBefore]

/-- The parts of a date that can be written have two digits. -/
theorem lt_of_isValid {d : Date} (h : d.isValid = true) : d.month < 100 ∧ d.day < 100 := by
  have hdays : Date.daysInMonth d.year d.month ≤ 31 := by
    unfold Date.daysInMonth
    split_ifs <;> omega
  simp only [Date.isValid, Bool.and_eq_true, decide_eq_true_eq] at h
  omega

/-- **An instant is read back.** -/
theorem readInstant?_text {t : Instant} (h : t.IsWritable) : readInstant? (instantText t) = some t := by
  obtain ⟨hvalid, hnanoseconds⟩ := h
  obtain ⟨hmonth, hday⟩ := lt_of_isValid hvalid
  have hcount := Date.toDays_ofDays (t.seconds / secondsPerDay)
  rw [instantText, readInstant?, String.toList_ofList]
  generalize hdate : Date.ofDays (t.seconds / secondsPerDay) = date at *
  generalize hsecond : (t.seconds % secondsPerDay).toNat = second
  generalize hleap : t.nanoseconds / 1000000000 = leap
  have hdays : secondsPerDay = 86400 := rfl
  rw [hdays] at hsecond hcount hdate
  -- what is read is in its range, and adds up to the instant
  have hhours : second / 3600 < 24 := by omega
  have hminutes : second / 60 % 60 < 60 := by omega
  have hseconds : second % 60 + leap ≤ 60 := by omega
  have hrange : ¬ (24 ≤ second / 3600 ∨ 60 ≤ second / 60 % 60 ∨ 60 < second % 60 + leap) := by omega
  have hsum : (second / 3600 : Nat) * 3600 + (second / 60 % 60 : Nat) * 60 + (second % 60 : Nat) =
      second := by omega
  have hsixty : (if second % 60 + leap = 60 then 1 else 0) = leap := by
    split_ifs <;> omega
  have hinstant : date.toDays * secondsPerDay + (second / 3600 : Nat) * 3600 +
      (second / 60 % 60 : Nat) * 60 + ((second % 60 + leap - leap : Nat) : Int) - 0 = t.seconds := by
    rw [hcount, hdays]
    omega
  have hrest : t.nanoseconds % 1000000000 + leap * 1000000000 = t.nanoseconds := by omega
  have hhyphen := readMark?_cons (by decide : isBlank '-' = false)
  have hcolon := readMark?_cons (by decide : isBlank ':' = false)
  simp only [List.append_assoc, List.cons_append]
  -- each part is read in front of the mark that follows it
  refine bind_eq_some (readYear?_yearChars date.year (stopsBefore_cons.2 rfl)) ?_
  refine bind_eq_some (hhyphen _) ?_
  refine bind_eq_some (readField?_pair hmonth rfl _) ?_
  refine bind_eq_some (hhyphen _) ?_
  refine bind_eq_some (readField?_pair hday rfl _) ?_
  refine bind_eq_some (readSeparator?_cons _) ?_
  refine bind_eq_some (readField?_pair (hhours.trans (by decide)) rfl _) ?_
  refine bind_eq_some (hcolon _) ?_
  refine bind_eq_some (readField?_pair (hminutes.trans (by decide)) rfl _) ?_
  refine bind_eq_some (hcolon _) ?_
  refine bind_eq_some (readField?_padded (by decide) (by omega) (stopsBefore_decimals _ [])) ?_
  refine bind_eq_some (readDecimals?_decimals (Nat.mod_lt _ (by decide)) []) ?_
  refine bind_eq_some readOffset?_utc ?_
  have hend : (!(trimStart []).isEmpty || !(⟨date.year, date.month, date.day⟩ : Date).isValid) =
      false := by
    rw [Bool.or_eq_false_iff]
    exact ⟨rfl, by rw [hvalid]; rfl⟩
  simp only [hend, if_neg hrange, hsixty, Bool.false_eq_true, if_false]
  rw [hinstant, hdays, hdate, if_pos hvalid, hrest]

end CollisionWatch.Wire
