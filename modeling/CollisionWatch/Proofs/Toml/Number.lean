import CollisionWatch.Proofs.Decimal.Binary
import CollisionWatch.Proofs.Decimal.Digits
import CollisionWatch.Proofs.Double
import CollisionWatch.Proofs.Single
import CollisionWatch.Toml.Printer
import CollisionWatch.Toml.Reader

/-!
# Numbers of a TOML document, written and read back

A proper numeral without an exponent is read up to its last character, and never taken for a date
(`readScalar?_chars`).  So a word is read back as an integer, an infinity as itself, and a float of
which the numeral denotes it as that float (`readScalar?_floatChars`); the numeral of a float always
has a point, so no float comes back as an integer.
-/

namespace CollisionWatch.Toml

open Decimal

/-- After a character of this kind the digits of a number go on. -/
def continuesDigits (c : Char) : Bool := c.isDigit || c == '_'

/-- After a character of this kind a number goes on, or the text holds another kind of value. -/
def continuesNumber (c : Char) : Bool :=
  continuesDigits c || ['.', 'e', 'E', 'x', 'o', 'b', '-', ':'].contains c

/-- What ends a number ends its digits. -/
theorem stopsBefore_digits {rest : List Char} (h : StopsBefore continuesNumber rest) :
    StopsBefore continuesDigits rest :=
  h.mono fun c hc => by simp [continuesNumber, hc]

/-- Digits start with nothing else. -/
theorem append_ne_cons {digits : List Char} (h : AreDigits digits) {c : Char} (hc : c.isDigit = false)
    (rest more : List Char) : digits ++ rest ≠ c :: more := by
  obtain ⟨d, tail, rfl⟩ := List.exists_cons_of_ne_nil h.ne_nil
  rintro ⟨⟩
  rw [h.isDigit c (by simp)] at hc
  cases hc

/-! ## Digits -/

/-- Digits are read up to what ends them. -/
theorem readGroups_append {digits rest : List Char} (h : ∀ c ∈ digits, c.isDigit = true)
    (hrest : StopsBefore continuesDigits rest) :
    readGroups Char.isDigit (digits ++ rest) = (digits, rest) := by
  induction digits with
  | nil =>
    cases rest with
    | nil => rfl
    | cons c rest =>
      have hc := stopsBefore_cons.1 hrest
      simp only [continuesDigits, Bool.or_eq_false_iff, beq_eq_false_iff_ne] at hc
      simp [readGroups, hc.1, hc.2]
  | cons c digits ih =>
    have hmore := ih fun d hd => h d (List.mem_cons_of_mem c hd)
    have hc := h c (by simp)
    have hscore : c ≠ '_' := by
      rintro rfl
      cases hc
    simp [readGroups, hc, hscore, hmore]

/-- If there are any, they are digits of a number. -/
theorem readDigits?_append {digits rest : List Char} (h : AreDigits digits)
    (hrest : StopsBefore continuesDigits rest) :
    readDigits? Char.isDigit (digits ++ rest) = some (digits, rest) := by
  have hread := readGroups_append h.isDigit hrest
  obtain ⟨c, more, rfl⟩ := List.exists_cons_of_ne_nil h.ne_nil
  rw [List.cons_append] at hread ⊢
  rw [readDigits?, if_pos (h.isDigit c (by simp)), hread]

/-- Digits are read as a whole part, unless a zero leads them. -/
theorem readWhole?_append {digits rest : List Char} (h : AreDigits digits)
    (hzero : ¬ HasLeadingZero digits) (hrest : StopsBefore continuesDigits rest) :
    readWhole? (digits ++ rest) = some (digits, rest) := by
  have hread := readDigits?_append h hrest
  obtain ⟨c, more, rfl⟩ := List.exists_cons_of_ne_nil h.ne_nil
  rw [List.cons_append] at hread ⊢
  by_cases hc : c = '0'
  · subst hc
    have hmore : more = [] := by simpa [HasLeadingZero] using hzero
    subst hmore
    rfl
  · simp [readWhole?, hc, hread]

/-- The digits behind a point are read as the fraction. -/
theorem readFraction?_pointChars {fraction : Option (List Char)} {rest : List Char}
    (h : ∀ digits ∈ fraction, AreDigits digits) (hrest : StopsBefore continuesNumber rest) :
    readFraction? (pointChars fraction ++ rest) = some (fraction, rest) := by
  cases fraction with
  | none =>
    have hpoint : ∀ more, rest ≠ '.' :: more := by
      rintro more rfl
      cases stopsBefore_cons.1 hrest
    simp [pointChars, readFraction?]
  | some digits =>
    simp [pointChars, readFraction?, readDigits?_append (h digits rfl) (stopsBefore_digits hrest)]

/-- Where a number ends it has no exponent. -/
theorem readPower?_of_stopsBefore {rest : List Char} (hrest : StopsBefore continuesNumber rest) :
    readPower? rest = some (none, rest) := by
  have hmark : ∀ c ∈ ['e', 'E'], ∀ more, rest ≠ c :: more := by
    rintro c hc more rfl
    have hstop := stopsBefore_cons.1 hrest
    fin_cases hc <;> cases hstop
  have hlower := hmark 'e' (by simp)
  have hupper := hmark 'E' (by simp)
  simp [readPower?]

/-! ## Numerals -/

section

variable {n : Numeral} {rest : List Char}

/-- A numeral without an exponent is read as its value, once the sign is read. -/
theorem readUnsigned?_chars (h : n.IsProper) (hexponent : n.exponent = none)
    (hrest : StopsBefore continuesNumber rest) :
    readUnsigned? n.negative (n.whole ++ (pointChars n.fraction ++ rest)) =
      (numeralValue? n).map fun v => (v, rest) := by
  have hstop : StopsBefore continuesDigits (pointChars n.fraction ++ rest) :=
    stopsBefore_pointChars n.fraction rfl (stopsBefore_digits hrest)
  have hwhole := readWhole?_append h.whole h.noLeadingZero hstop
  have hinf : ∀ more, n.whole ++ (pointChars n.fraction ++ rest) ≠ 'i' :: 'n' :: 'f' :: more :=
    fun more => append_ne_cons h.whole rfl _ _
  have hnan : ∀ more, n.whole ++ (pointChars n.fraction ++ rest) ≠ 'n' :: 'a' :: 'n' :: more :=
    fun more => append_ne_cons h.whole rfl _ _
  obtain ⟨negative, whole, fraction, exponent⟩ := n
  subst hexponent
  generalize whole ++ (pointChars fraction ++ rest) = text at hwhole hinf hnan ⊢
  simp [readUnsigned?, hwhole, readFraction?_pointChars h.fraction hrest,
    readPower?_of_stopsBefore hrest, Option.map_eq_bind]

/-- Without an exponent a numeral ends with its fraction. -/
theorem chars_append (hexponent : n.exponent = none) (rest : List Char) :
    n.chars ++ rest = signChars n.negative ++ (n.whole ++ (pointChars n.fraction ++ rest)) := by
  rw [n.chars_eq, hexponent]
  simp [powerChars]

/-- Without a sign the digits of a numeral are no mark of another base. -/
theorem readNumber?_unsigned {text : List Char}
    (hbase : ∀ c ∈ ['x', 'o', 'b'], ∀ more, text ≠ '0' :: c :: more)
    (hsign : ∀ c ∈ ['+', '-'], ∀ more, text ≠ c :: more) :
    readNumber? text = readUnsigned? false text := by
  have hhex := hbase 'x' (by simp)
  have hoctal := hbase 'o' (by simp)
  have hbinary := hbase 'b' (by simp)
  have hplus := hsign '+' (by simp)
  have hminus := hsign '-' (by simp)
  simp [readNumber?]

/-- A numeral without an exponent is read as its value. -/
theorem readNumber?_chars (h : n.IsProper) (hexponent : n.exponent = none)
    (hrest : StopsBefore continuesNumber rest) :
    readNumber? (n.chars ++ rest) = (numeralValue? n).map fun v => (v, rest) := by
  have hread := readUnsigned?_chars h hexponent hrest
  rw [chars_append hexponent]
  cases hnegative : n.negative with
  | true =>
    rw [hnegative] at hread
    simpa [signChars, readNumber?] using hread
  | false =>
    rw [hnegative] at hread
    rw [← hread]
    refine readNumber?_unsigned ?_ ?_
    · -- a zero in front of the mark would be all there is of the whole part
      intro c hc more heq
      have hstop : StopsBefore ['x', 'o', 'b'].contains (pointChars n.fraction ++ rest) :=
        stopsBefore_pointChars n.fraction rfl (hrest.mono fun d hd => by
          simp [continuesNumber] at hd ⊢
          tauto)
      obtain ⟨d, tail, hwhole⟩ := List.exists_cons_of_ne_nil h.whole.ne_nil
      simp only [hwhole, signChars, Bool.false_eq_true, if_false, List.nil_append, List.cons_append,
        List.cons.injEq] at heq
      have htail : tail = [] := by simpa [HasLeadingZero, hwhole, heq.1] using h.noLeadingZero
      rw [htail, List.nil_append] at heq
      rw [heq.2] at hstop
      simp [stopsBefore_cons] at hstop hc
      tauto
    · intro c hc more
      refine append_ne_cons h.whole ?_ _ _
      fin_cases hc <;> rfl

/-! ## Dates -/

/-- After some of the digits in front there is no mark. -/
theorem readMark?_drop {digits : List Char} (h : ∀ c ∈ digits, c.isDigit = true) {mark : Char}
    (hmark : mark.isDigit = false) (hrest : StopsBefore (· == mark) rest) (count : Nat) :
    readMark? mark (digits.drop count ++ rest) = none := by
  cases hdrop : digits.drop count with
  | nil =>
    cases rest with
    | nil => rfl
    | cons c rest =>
      have hc : c ≠ mark := by simpa using stopsBefore_cons.1 hrest
      rw [List.nil_append, readMark?, if_neg hc]
  | cons c more =>
    have hc : c ≠ mark := by
      rintro rfl
      rw [h c (List.mem_of_mem_drop (hdrop ▸ List.mem_cons_self))] at hmark
      cases hmark
    rw [List.cons_append, readMark?, if_neg hc]

/-- A number of fixed length is part of the digits in front. -/
theorem readFixed?_eq_some {digits : List Char} (hrest : StopsBefore Char.isDigit rest) {count m : Nat}
    {after : List Char} (h : readFixed? count (digits ++ rest) = some (m, after)) :
    after = digits.drop count ++ rest := by
  unfold readFixed? at h
  extract_lets taken at h
  split_ifs at h with hall
  cases h
  have hle : count ≤ digits.length := by
    by_contra hlt
    have hcount : count - digits.length = count - digits.length - 1 + 1 := by omega
    rw [show taken = _ from List.take_append, hcount] at hall
    cases rest with
    | nil =>
      simp at hall
      omega
    | cons c rest =>
      have hc : c.isDigit = true := by simpa using List.all_eq_true.1 hall.2 c (by simp)
      rw [stopsBefore_cons.1 hrest] at hc
      cases hc
  rw [List.drop_append_of_le_length hle]

/-- After a character of this kind digits may belong to a date or a time of day. -/
def continuesDate (c : Char) : Bool := c.isDigit || c == '-' || c == ':'

/-- After a number of fixed length in front of a text there is no mark. -/
theorem readMark?_of_readFixed? {digits : List Char} (h : ∀ c ∈ digits, c.isDigit = true)
    (mark : Char) (hmark : mark.isDigit = false) (hrest : StopsBefore continuesDate rest)
    (hstop : continuesDate mark = true) {count m : Nat} {after : List Char}
    (hfixed : readFixed? count (digits ++ rest) = some (m, after)) : readMark? mark after = none := by
  have hdigit : StopsBefore Char.isDigit rest := hrest.mono fun c hc => by
    simp [continuesDate, hc]
  rw [readFixed?_eq_some hdigit hfixed]
  exact readMark?_drop h hmark (hrest.mono fun c hc => by rwa [eq_of_beq hc]) count

/-- Digits that neither a dash nor a colon follows are no date and no time of day. -/
theorem readDateTime?_digits {digits : List Char} (h : ∀ c ∈ digits, c.isDigit = true)
    (hrest : StopsBefore continuesDate rest) : readDateTime? (digits ++ rest) = none := by
  have hdate : readDate? (digits ++ rest) = none := by
    rw [readDate?]
    cases hfixed : readFixed? 4 (digits ++ rest) with
    | none => rfl
    | some read => simp [readMark?_of_readFixed? h '-' rfl hrest rfl hfixed]
  have htime : readHourMinute? (digits ++ rest) = none := by
    rw [readHourMinute?]
    cases hfixed : readFixed? 2 (digits ++ rest) with
    | none => rfl
    | some read => simp [readMark?_of_readFixed? h ':' rfl hrest rfl hfixed]
  simp [readDateTime?, hdate, readTime?, htime]

/-- A text that starts with no digit is no date and no time of day. -/
theorem readDateTime?_of_stopsBefore {text : List Char} (h : StopsBefore Char.isDigit text) :
    readDateTime? text = none := by
  have hfixed : ∀ count, readFixed? (count + 1) text = none := by
    intro count
    cases text with
    | nil => simp [readFixed?]
    | cons c rest => simp [readFixed?, stopsBefore_cons.1 h]
  simp [readDateTime?, readDate?, readTime?, readHourMinute?, hfixed]

/-- A numeral is not read as a date. -/
theorem readDateTime?_chars (h : n.IsProper) (hexponent : n.exponent = none)
    (hrest : StopsBefore continuesNumber rest) : readDateTime? (n.chars ++ rest) = none := by
  have hdate : StopsBefore continuesDate rest := hrest.mono fun c hc => by
    simp only [continuesDate, continuesNumber, continuesDigits, Bool.or_eq_true, beq_iff_eq,
      List.contains_eq_mem, decide_eq_true_eq] at hc ⊢
    rcases hc with (hc | rfl) | rfl
    · exact .inl (.inl hc)
    · simp
    · simp
  rw [chars_append hexponent]
  cases n.negative with
  | true => exact readDateTime?_of_stopsBefore (stopsBefore_cons.2 rfl)
  | false =>
    have hpoint := stopsBefore_pointChars n.fraction rfl hdate
    exact @readDateTime?_digits _ n.whole h.whole.isDigit hpoint

/-! ## Scalars -/

/-- **A numeral is read up to its last character.** -/
theorem readScalar?_chars (h : n.IsProper) (hexponent : n.exponent = none)
    (hrest : StopsBefore continuesNumber rest) :
    readScalar? (n.chars ++ rest) = (numeralValue? n).map fun v => (v, rest) := by
  have hdate := readDateTime?_chars h hexponent hrest
  have hnumber := readNumber?_chars h hexponent hrest
  obtain ⟨c, more, htext, hc⟩ :
      ∃ c more, n.chars ++ rest = c :: more ∧ (c.isDigit = true ∨ c = '-') := by
    rw [chars_append hexponent]
    cases n.negative with
    | true => exact ⟨'-', _, rfl, .inr rfl⟩
    | false =>
      obtain ⟨d, tail, hwhole⟩ := List.exists_cons_of_ne_nil h.whole.ne_nil
      exact ⟨d, _, by rw [hwhole]; rfl, .inl (h.whole.isDigit d (by simp [hwhole]))⟩
  rw [htext] at hdate hnumber ⊢
  have hquote : ¬ (c = '"' ∨ c = '\'') := by
    rintro (rfl | rfl) <;> simp at hc
  rw [readScalar?, if_neg hquote, if_pos (by tauto), hdate, hnumber]

end

/-- A number that is not too large is read back from its digits. -/
theorem readScalar?_digitsOfNat {n : Nat} (hn : (n : Int) ≤ largestInteger) {rest : List Char}
    (hrest : StopsBefore continuesNumber rest) :
    readScalar? (digitsOfNat n ++ rest) = some (.integer n, rest) := by
  have hchars : digitsOfNat n = (Numeral.ofNat n).chars := by simp [Numeral.chars, Numeral.ofNat]
  rw [hchars, readScalar?_chars (Numeral.isProper_ofNat n) rfl hrest]
  have hleast : leastInteger ≤ (n : Int) := le_trans (by decide) (Int.natCast_nonneg n)
  simp [numeralValue?, Numeral.ofNat, Numeral.isWhole, integer?, natOfDigits_digitsOfNat, hn, hleast]

/-! ## Floats -/

/-- The numeral of a float has a point and no exponent. -/
theorem isFraction_of_numeral {x : Binary} {n : Numeral} (h : floatStyle.numeral x = some n) :
    n.fraction.isSome = true ∧ n.exponent = none := by
  have hfraction : ∀ digits, (Style.fractionOf true digits).isSome = true := by
    intro digits
    cases digits <;> rfl
  unfold Style.numeral at h
  split at h
  · cases h
    exact ⟨rfl, rfl⟩
  · cases h
    exact ⟨hfraction _, rfl⟩
  · cases h

/-- A double can be read back. -/
structure IsLegible (x : Float) : Prop where
  /-- It is a number, possibly an infinite one. -/
  isNumber : x.isNaN = false
  /-- Its numeral, if it has one, denotes it. -/
  read : ∀ n ∈ floatStyle.numeral (.ofDouble x), n.toDouble = x

/-- Whether a double is legible can be computed. -/
instance (x : Float) : Decidable (IsLegible x) :=
  decidable_of_iff (x.isNaN = false ∧ ∀ n ∈ floatStyle.numeral (.ofDouble x), n.toDouble = x)
    ⟨fun h => ⟨h.1, h.2⟩, fun h => ⟨h.isNumber, h.read⟩⟩

/-- A double that is read off as infinite is one of the two infinities. -/
theorem eq_infinity {x : Float} {negative : Bool} (h : Binary.ofDouble x = .infinite negative) :
    x = if negative then -infinity else infinity := by
  have hmatches := Binary.matches_ofDouble x
  rw [h] at hmatches
  apply Binary.eq_of_unpack_eq
  generalize x.toModel.unpack = unpacked at hmatches ⊢
  cases hmatches with
  | infinity sign => cases sign <;> rfl

/-- One that is read off as finite is none of them. -/
theorem isInf_of_ofDouble {x : Float} {negative narrow : Bool} {m : Nat} {e : Int}
    (h : Binary.ofDouble x = .finite negative m e narrow) : x.isInf = false := by
  have hmatches := Binary.matches_ofDouble x
  change x.toModel.unpack.isInf = false
  rw [h] at hmatches
  generalize x.toModel.unpack = unpacked at hmatches ⊢
  cases hmatches <;> rfl

/-- An infinity is read back, whatever follows. -/
theorem readScalar?_infinite (negative : Bool) (rest : List Char) :
    readScalar? ((floatStyle.textWith "inf" "nan" (.infinite negative)).toList ++ rest) =
      some (.float (if negative then -infinity else infinity), rest) := by
  cases negative with
  | true =>
    have hchars : (floatStyle.textWith "inf" "nan" (.infinite true)).toList = ['-', 'i', 'n', 'f'] := by
      decide
    have hdate : readDateTime? ('-' :: 'i' :: 'n' :: 'f' :: rest) = none :=
      readDateTime?_of_stopsBefore (stopsBefore_cons.2 rfl)
    rw [hchars]
    simp [readScalar?, hdate, readNumber?, readUnsigned?]
  | false =>
    have hchars : (floatStyle.textWith "inf" "nan" (.infinite false)).toList = ['i', 'n', 'f'] := by
      decide
    have hdate : readDateTime? ('i' :: 'n' :: 'f' :: rest) = none :=
      readDateTime?_of_stopsBefore (stopsBefore_cons.2 rfl)
    rw [hchars]
    simp [readScalar?, hdate, readNumber?, readUnsigned?]

/-- **A float is read back, infinities included.** -/
theorem readScalar?_floatChars {x : Float} (h : IsLegible x) {rest : List Char}
    (hrest : StopsBefore continuesNumber rest) :
    readScalar? (floatChars x ++ rest) = some (.float x, rest) := by
  rw [floatChars]
  cases hbinary : Binary.ofDouble x with
  | notANumber =>
    have hmatches := Binary.matches_ofDouble x
    have hnumber : x.toModel.unpack.isNaN = false := h.isNumber
    rw [hbinary] at hmatches
    generalize x.toModel.unpack = unpacked at hmatches hnumber
    cases hmatches
    cases hnumber
  | infinite negative =>
    rw [eq_infinity hbinary]
    exact readScalar?_infinite negative rest
  | finite negative m e narrow =>
    obtain ⟨n, hn⟩ : ∃ n, floatStyle.numeral (.finite negative m e narrow) = some n := by
      cases m with
      | zero => exact ⟨_, rfl⟩
      | succ m => exact ⟨_, rfl⟩
    obtain ⟨hfraction, hexponent⟩ := isFraction_of_numeral hn
    have hx : n.toDouble = x := h.read n (by rw [hbinary, hn]; rfl)
    have htext : floatStyle.textWith "inf" "nan" (.finite negative m e narrow) = n.text := by
      simp [Style.textWith, hn]
    rw [htext, Numeral.text, String.toList_ofList,
      readScalar?_chars (Style.isProper_numeral hn) hexponent hrest]
    have hvalue : numeralValue? n = some (.float x) := by
      simp [numeralValue?, Numeral.isWhole, Option.isNone_eq_false_iff.2 hfraction, hx,
        isInf_of_ofDouble hbinary]
    rw [hvalue]
    rfl

end CollisionWatch.Toml
