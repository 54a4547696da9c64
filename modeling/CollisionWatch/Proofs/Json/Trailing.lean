import CollisionWatch.Proofs.Json.Text

/-!
# A blank behind a value

A blank behind a text is no part of any token: a numeral ends before it, a name is not closed by it,
and no literal or bracket is one.  So every reader reads of a text with a blank behind it what it
reads of the text alone, and leaves the blank with the rest (`Leaves`).  A text is the only value of
a line, or no value, whether a carriage return stands behind it or not
(`readChars?_append_gap`).

The readers of values take their fuel from the length of the text.  What is left after a token is
shorter than the text before it, so there is fuel for it as well.
-/

namespace CollisionWatch.Json

open Decimal

variable {α β : Type} {c : Char} {n m : Nat}

/-- Two readings, the second of a text with `c` behind it: either fails or both read the same, and
the second leaves `c` behind the rest.  The rest has fewer than `n` characters. -/
inductive Leaves (c : Char) (n : Nat) :
    Option (α × List Char) → Option (α × List Char) → Prop where
  /-- Neither succeeds. -/
  | nothing : Leaves c n none none
  /-- Both read the same. -/
  | found {a : α} {rest : List Char} : rest.length < n →
      Leaves c n (some (a, rest)) (some (a, rest ++ [c]))

namespace Leaves

variable {x y : Option (α × List Char)}

/-- A larger bound holds of what is left too. -/
theorem mono (h : Leaves c n x y) (hnm : n ≤ m) : Leaves c m x y := by
  cases h with
  | nothing => exact .nothing
  | found hlt => exact .found (Nat.lt_of_lt_of_le hlt hnm)

/-- Readings go on alike. -/
theorem bind (h : Leaves c n x y) {f g : α × List Char → Option (β × List Char)}
    (hfg : ∀ a rest, rest.length < n → Leaves c m (f (a, rest)) (g (a, rest ++ [c]))) :
    Leaves c m (x >>= f) (y >>= g) := by
  cases h with
  | nothing => exact .nothing
  | found hlt => exact hfg _ _ hlt

/-- What is made of a reading. -/
theorem map (h : Leaves c n x y) (f : α → β) :
    Leaves c n (x.map fun (a, rest) => (f a, rest)) (y.map fun (a, rest) => (f a, rest)) := by
  cases h with
  | nothing => exact .nothing
  | found hlt => exact .found hlt

end Leaves

/-- Where the items of a kind end in a list, and in the list with one of that kind behind it. -/
theorem dropWhile_concat_cases {p : α → Bool} {a : α} (ha : p a = true) (xs : List α) :
    (xs.dropWhile p = [] ∧ (xs ++ [a]).dropWhile p = []) ∨
      ∃ b rest, p b = false ∧ b :: rest <:+ xs ∧ xs.dropWhile p = b :: rest ∧
        (xs ++ [a]).dropWhile p = b :: (rest ++ [a]) := by
  induction xs with
  | nil => exact .inl ⟨rfl, by simp [ha]⟩
  | cons b rest ih =>
    by_cases hb : p b = true
    · rw [List.cons_append, List.dropWhile_cons_of_pos hb, List.dropWhile_cons_of_pos hb]
      rcases ih with hnone | ⟨b', rest', hb', hsuffix, hdrop⟩
      · exact .inl hnone
      · exact .inr ⟨b', rest', hb', hsuffix.trans (List.suffix_cons b rest), hdrop⟩
    · rw [List.cons_append, List.dropWhile_cons_of_neg hb, List.dropWhile_cons_of_neg hb]
      exact .inr ⟨b, rest, Bool.eq_false_iff.2 hb, List.suffix_rfl, rfl, rfl⟩

/-! ## What begins differently -/

/-- Which digits are a whole number depends on the digits only. -/
theorem readWhole?_eq (text : List Char) :
    readWhole? text =
      if (spanDigits text).1 = [] ∨
          (spanDigits text).1.head? = some '0' ∧ (spanDigits text).1.length ≠ 1 then none
      else some (spanDigits text) := by
  unfold readWhole?
  generalize spanDigits text = part
  split
  · simp
  · simp
  · rename_i digits rest hempty hzero
    rw [if_neg]
    rintro (rfl | ⟨hhead, hlength⟩)
    · exact hempty rfl
    · obtain ⟨more, rfl⟩ := List.head?_eq_some_iff.1 hhead
      cases more with
      | nil => exact hlength rfl
      | cons e more => exact hzero e more rfl

/-- Without a point there is no fraction. -/
theorem readFraction?_of_head?_ne {text : List Char} (h : text.head? ≠ some '.') :
    readFraction? text = some (none, text) := by
  unfold readFraction?
  split
  · exact absurd rfl h
  · rfl

/-- Without a sign the digits come at once. -/
theorem readSignedDigits?_of_head?_ne {text : List Char} (hplus : text.head? ≠ some '+')
    (hminus : text.head? ≠ some '-') :
    readSignedDigits? text = match spanDigits text with
      | ([], _) => none
      | (digits, rest) => some (⟨.none, digits⟩, rest) := by
  unfold readSignedDigits?
  split
  rename_i heq
  split at heq
  · exact absurd rfl hplus
  · exact absurd rfl hminus
  · obtain ⟨rfl, rfl⟩ := Prod.mk.inj heq
    rfl

/-- Without its letter there is no exponent. -/
theorem readPower?_of_head?_ne {text : List Char} (hlower : text.head? ≠ some 'e')
    (hupper : text.head? ≠ some 'E') : readPower? text = some (none, text) := by
  unfold readPower?
  split
  · exact absurd rfl hlower
  · exact absurd rfl hupper
  · rfl

/-- A number without its sign. -/
def readMagnitude? (negative : Bool) (text : List Char) : Option (Numeral × List Char) := do
  let (whole, rest) ← readWhole? text
  let (fraction, rest) ← readFraction? rest
  let (exponent, rest) ← readPower? rest
  return (⟨negative, whole, fraction, exponent⟩, rest)

/-- Without a minus the number is not negative. -/
theorem readNumeral?_of_head?_ne {text : List Char} (h : text.head? ≠ some '-') :
    readNumeral? text = readMagnitude? false text := by
  unfold readNumeral?
  split
  rename_i heq
  split at heq
  · exact absurd rfl h
  · obtain ⟨rfl, rfl⟩ := Prod.mk.inj heq
    rfl

/-- No string goes on with a control character. -/
theorem readPieces?_control {d : Char} (h : d.toNat < 0x20) (text : List Char) :
    readPieces? (d :: text) = none := by
  have hquote : d ≠ '"' := by
    rintro rfl
    exact absurd h (by decide)
  have hbackslash : d ≠ '\\' := by
    rintro rfl
    exact absurd h (by decide)
  rw [readPieces?.eq_def]
  simp [hbackslash, h]

/-- An escape that names no character; a unit needs four digits. -/
theorem readPieces?_noLetter {letter : Char} (h : unescape? letter = none) {text : List Char}
    (hunit : letter = 'u' → text.length < 4) : readPieces? ('\\' :: letter :: text) = none := by
  unfold readPieces?
  split
  · contradiction
  · rename_i heq
    exact absurd (List.cons.inj heq).1 (by decide)
  · rename_i heq
    simp only [List.cons.injEq, true_and] at heq
    obtain ⟨rfl, rfl⟩ := heq
    simp at hunit
    omega
  · rename_i heq
    simp only [List.cons.injEq, true_and] at heq
    obtain ⟨rfl, rfl⟩ := heq
    simp [h]
  · rename_i hno heq
    obtain ⟨rfl, rfl⟩ := List.cons.inj heq
    exact (hno letter text rfl rfl).elim

/-- A list or an object after its opening bracket. -/
def readEnclosed? (closing : Char) (close : List α → Value)
    (read : List Char → Option (List α × List Char)) (text : List Char) :
    Option (Value × List Char) :=
  if (skipGap text).head? = some closing then some (close [], (skipGap text).tail)
  else do
    let (parts, rest) ← read (skipGap text)
    return (close parts, rest)

/-- Behind an opening bracket come items and a closing one. -/
theorem readValue?_bracket {fuel : Nat} {text rest : List Char} (h : skipGap text = '[' :: rest) :
    readValue? (fuel + 1) text = readEnclosed? ']' .array (readItems? fuel) rest := by
  simp only [readValue?, h, readEnclosed?]
  cases skipGap rest with
  | nil => rfl
  | cons d more =>
    by_cases hclose : d = ']'
    · subst hclose
      rfl
    · simp [hclose]

/-- Behind an opening brace come members and a closing one. -/
theorem readValue?_brace {fuel : Nat} {text rest : List Char}
    (h : skipGap text = '\x7b' :: rest) :
    readValue? (fuel + 1) text = readEnclosed? '\x7d' .object (readMembers? fuel) rest := by
  simp only [readValue?, h, readEnclosed?]
  cases skipGap rest with
  | nil => rfl
  | cons d more =>
    by_cases hclose : d = '\x7d'
    · subst hclose
      rfl
    · simp [hclose]

/-- Nothing is no item. -/
theorem readItems?_nil (fuel : Nat) : readItems? fuel [] = none := by
  rcases fuel with _ | _ | fuel <;> rfl

/-- Nothing is no member. -/
theorem readMembers?_nil (fuel : Nat) : readMembers? fuel [] = none := by
  cases fuel <;> rfl

section gap

variable (hc : isGap c = true)

include hc

/-- A blank is one of four characters. -/
theorem gap_cases : c = ' ' ∨ c = '\n' ∨ c = '\t' ∨ c = '\r' := by
  simpa [isGap, or_assoc] using hc

/-- A gap is no digit. -/
theorem isDigit_gap : c.isDigit = false := by
  rcases gap_cases hc with rfl | rfl | rfl | rfl <;> rfl

/-- A blank behind a text is not its first character, unless the text is empty. -/
theorem head?_cases {d : Char} (hd : isGap d = false) (text : List Char) :
    (∃ more, text = d :: more) ∨ text.head? ≠ some d ∧ (text ++ [c]).head? ≠ some d := by
  have hne : c ≠ d := by
    rintro rfl
    exact absurd (hc.symm.trans hd) (by decide)
  cases text with
  | nil => exact .inr ⟨nofun, fun h => hne (Option.some.inj h)⟩
  | cons e more =>
    by_cases he : e = d
    · exact .inl ⟨more, by rw [he]⟩
    · exact .inr ⟨fun h => he (Option.some.inj h), fun h => he (Option.some.inj h)⟩

/-! ## Numerals -/

/-- Digits end before a blank, and what is left after them is no longer than the text. -/
theorem spanDigits_append_gap (text : List Char) :
    spanDigits (text ++ [c]) = ((spanDigits text).1, (spanDigits text).2 ++ [c]) ∧
      (spanDigits text).1.length + (spanDigits text).2.length = text.length := by
  have hspan : spanDigits text = (text.takeWhile Char.isDigit, text.dropWhile Char.isDigit) :=
    List.span_eq_takeWhile_dropWhile _ _
  have hstop : StopsBefore Char.isDigit (text.dropWhile Char.isDigit ++ [c]) := by
    intro d hd
    have hhead := List.head?_dropWhile_not Char.isDigit text
    cases hdrop : text.dropWhile Char.isDigit with
    | nil =>
      rw [hdrop] at hd
      obtain rfl : c = d := by simpa using hd
      exact isDigit_gap hc
    | cons b rest =>
      rw [hdrop] at hd hhead
      obtain rfl : b = d := by simpa using hd
      exact hhead
  have htext := List.takeWhile_append_dropWhile (p := Char.isDigit) (l := text)
  rw [hspan]
  constructor
  · conv_lhs => rw [← htext, List.append_assoc]
    exact span_append (fun d hd => List.mem_takeWhile_imp hd) hstop
  · rw [← List.length_append, htext]

/-- A whole part is read the same with a gap behind the text. -/
theorem readWhole?_leaves (text : List Char) :
    Leaves c text.length (readWhole? text) (readWhole? (text ++ [c])) := by
  obtain ⟨hspan, hlength⟩ := spanDigits_append_gap hc text
  rw [readWhole?_eq, readWhole?_eq, hspan]
  dsimp only
  split
  · exact .nothing
  · rename_i hwhole
    have hpos := List.length_pos_of_ne_nil fun hnil => hwhole (.inl hnil)
    have hrest : (spanDigits text).2.length < text.length := by omega
    exact .found hrest

/-- Digits are read alike, whatever is made of them. -/
theorem digits_leaves (f : List Char → α) (text : List Char) :
    Leaves c text.length
      (match spanDigits text with
        | ([], _) => none
        | (digits, rest) => some (f digits, rest))
      (match spanDigits (text ++ [c]) with
        | ([], _) => none
        | (digits, rest) => some (f digits, rest)) := by
  obtain ⟨hspan, hlength⟩ := spanDigits_append_gap hc text
  rw [hspan]
  generalize spanDigits text = part at hlength
  obtain ⟨digits, rest⟩ := part
  cases digits with
  | nil => exact .nothing
  | cons d digits =>
    have hrest : rest.length < text.length := by
      simp only [List.length_cons] at hlength
      omega
    exact .found hrest

/-- A fraction is read alike with the gap behind the text and without it. -/
theorem readFraction?_leaves (text : List Char) :
    Leaves c (text.length + 1) (readFraction? text) (readFraction? (text ++ [c])) := by
  rcases head?_cases hc (d := '.') rfl text with ⟨more, rfl⟩ | ⟨hnot, hnot'⟩
  · exact (digits_leaves hc some more).mono (Nat.le_add_right more.length 2)
  · rw [readFraction?_of_head?_ne hnot, readFraction?_of_head?_ne hnot']
    exact .found (Nat.lt_succ_self _)

/-- An exponent is read alike with the gap behind the text and without it. -/
theorem readSignedDigits?_leaves (text : List Char) :
    Leaves c text.length (readSignedDigits? text) (readSignedDigits? (text ++ [c])) := by
  rcases head?_cases hc (d := '+') rfl text with ⟨more, rfl⟩ | ⟨hplus, hplus'⟩
  · exact (digits_leaves hc (Exponent.mk .plus) more).mono (Nat.le_succ _)
  rcases head?_cases hc (d := '-') rfl text with ⟨more, rfl⟩ | ⟨hminus, hminus'⟩
  · exact (digits_leaves hc (Exponent.mk .minus) more).mono (Nat.le_succ _)
  rw [readSignedDigits?_of_head?_ne hplus hminus, readSignedDigits?_of_head?_ne hplus' hminus']
  exact digits_leaves hc (Exponent.mk .none) text

/-- A power of ten is read alike with the gap behind the text and without it. -/
theorem readPower?_leaves (text : List Char) :
    Leaves c (text.length + 1) (readPower? text) (readPower? (text ++ [c])) := by
  rcases head?_cases hc (d := 'e') rfl text with ⟨more, rfl⟩ | ⟨hlower, hlower'⟩
  · exact ((readSignedDigits?_leaves hc more).map some).mono (Nat.le_add_right more.length 2)
  rcases head?_cases hc (d := 'E') rfl text with ⟨more, rfl⟩ | ⟨hupper, hupper'⟩
  · exact ((readSignedDigits?_leaves hc more).map some).mono (Nat.le_add_right more.length 2)
  rw [readPower?_of_head?_ne hlower hupper, readPower?_of_head?_ne hlower' hupper']
  exact .found (Nat.lt_succ_self _)

/-- A number without its sign is read alike with the gap behind the text and without it. -/
theorem readMagnitude?_leaves (negative : Bool) (text : List Char) :
    Leaves c text.length (readMagnitude? negative text)
      (readMagnitude? negative (text ++ [c])) := by
  refine (readWhole?_leaves hc text).bind fun whole rest hrest => ?_
  refine ((readFraction?_leaves hc rest).mono hrest).bind fun fraction rest hrest => ?_
  refine ((readPower?_leaves hc rest).mono hrest).bind fun exponent rest hrest => ?_
  exact .found hrest

/-- **A numeral is read alike.** -/
theorem readNumeral?_leaves (text : List Char) :
    Leaves c text.length (readNumeral? text) (readNumeral? (text ++ [c])) := by
  rcases head?_cases hc (d := '-') rfl text with ⟨more, rfl⟩ | ⟨hminus, hminus'⟩
  · exact (readMagnitude?_leaves hc true more).mono (Nat.le_succ _)
  · rw [readNumeral?_of_head?_ne hminus, readNumeral?_of_head?_ne hminus']
    exact readMagnitude?_leaves hc false text

/-! ## Strings -/

/-- A gap is no letter of an escape. -/
theorem unescape?_gap : unescape? c = none := by
  rcases gap_cases hc with rfl | rfl | rfl | rfl <;> rfl

/-- A gap is no hexadecimal digit. -/
theorem natOfHex?_gap (x y z : Char) : natOfHex? [x, y, z, c] = none := by
  have hvalue : hexValue? c = none := by rcases gap_cases hc with rfl | rfl | rfl | rfl <;> rfl
  cases hx : hexValue? x <;> cases hy : hexValue? y <;> cases hz : hexValue? z <;>
    simp [natOfHex?, hx, hy, hz, hvalue]

/-- **The pieces of a string are read alike.** -/
theorem readPieces?_leaves (text : List Char) :
    Leaves c text.length (readPieces? text) (readPieces? (text ++ [c])) := by
  induction text using readPieces?.induct with
  | case1 =>
    rcases gap_cases hc with rfl | rfl | rfl | rfl <;> exact .nothing
  | case2 rest => exact .found (Nat.lt_succ_self _)
  | case3 x y z w rest ih =>
    cases hunit : natOfHex? [x, y, z, w] with
    | none =>
      simp only [List.cons_append, readPieces?, hunit]
      exact .nothing
    | some n =>
      simp only [List.cons_append, readPieces?_unit hunit]
      exact (ih.map (Piece.unit n :: ·)).mono (Nat.le_add_right rest.length 6)
  | case4 letter rest hnot ih =>
    by_cases hu : letter = 'u'
    · subst hu
      -- With three digits the blank would be the fourth one, which is no digit.
      rcases rest with _ | ⟨x, _ | ⟨y, _ | ⟨z, _ | ⟨w, rest⟩⟩⟩⟩
      case cons.cons.cons.nil =>
        simp only [List.cons_append, List.nil_append]
        rw [readPieces?_noLetter rfl (fun _ => by simp), readPieces?, natOfHex?_gap hc]
        exact .nothing
      case cons.cons.cons.cons => exact absurd rfl (hnot x y z w rest rfl)
      all_goals
        simp only [List.cons_append, List.nil_append]
        rw [readPieces?_noLetter rfl (fun _ => by simp),
          readPieces?_noLetter rfl (fun _ => by simp)]
        exact .nothing
    · cases hletter : unescape? letter with
      | none =>
        simp only [List.cons_append]
        rw [readPieces?_noLetter hletter (absurd · hu), readPieces?_noLetter hletter (absurd · hu)]
        exact .nothing
      | some d =>
        simp only [List.cons_append, readPieces?_letter hu hletter]
        exact (ih.map (Piece.plain d :: ·)).mono (Nat.le_add_right rest.length 2)
  | case5 d rest hquote hunit hletter hbad ih =>
    rcases hbad with hcontrol | rfl
    · rw [List.cons_append, readPieces?_control hcontrol, readPieces?_control hcontrol]
      exact .nothing
    · cases rest with
      | nil =>
        rw [List.cons_append, List.nil_append,
          readPieces?_noLetter (unescape?_gap hc) (fun _ => by simp)]
        exact .nothing
      | cons letter rest => exact absurd rfl (hletter letter rest rfl)
  | case6 d rest hquote hunit hletter hgood ih =>
    rw [not_or] at hgood
    rw [List.cons_append, readPieces?_plain hquote hgood.2 (Nat.not_lt.1 hgood.1),
      readPieces?_plain hquote hgood.2 (Nat.not_lt.1 hgood.1)]
    exact (ih.map (Piece.plain d :: ·)).mono (Nat.le_succ _)

/-- A string is read the same with a gap behind the text. -/
theorem readString?_leaves (text : List Char) :
    Leaves c text.length (readString? text) (readString? (text ++ [c])) :=
  (readPieces?_leaves hc text).map fun pieces => (spell? pieces).map String.ofList

/-! ## Values -/

/-- What comes after the blanks in front of a text, and what comes after them with another blank
behind the text. -/
theorem skipGap_cases (text : List Char) :
    (skipGap text = [] ∧ skipGap (text ++ [c]) = []) ∨
      ∃ d rest, isGap d = false ∧ rest.length < text.length ∧ skipGap text = d :: rest ∧
        skipGap (text ++ [c]) = d :: (rest ++ [c]) := by
  rcases dropWhile_concat_cases hc text with hnone | ⟨d, rest, hd, hsuffix, htext, htext'⟩
  · exact .inl hnone
  · exact .inr ⟨d, rest, hd, hsuffix.length_le, htext, htext'⟩

omit hc in
/-- A word without blanks that a text with a blank behind it starts with is one that the text
starts with. -/
theorem exists_eq_append_of_concat_eq {word text more : List Char} (hword : c ∉ word)
    (h : text ++ [c] = word ++ more) : ∃ rest, text = word ++ rest := by
  rcases List.append_eq_append_iff.1 h with ⟨tail, rfl, htail⟩ | ⟨rest, rfl, -⟩
  · cases tail with
    | nil => exact ⟨[], by simp⟩
    | cons d tail =>
      obtain rfl : c = d := (List.cons.inj htail).1
      exact absurd (List.mem_append_right text List.mem_cons_self) hword
  · exact ⟨rest, rfl⟩

/-- With two more units of fuel a reader reads alike what it has fuel for. -/
def ReadsAlike (c : Char) (spare : Nat) (read : Nat → List Char → Option (α × List Char))
    (fuel : Nat) : Prop :=
  ∀ text : List Char, 2 * text.length + spare ≤ fuel →
    Leaves c text.length (read fuel text) (read (fuel + 2) (text ++ [c]))

/-- What is enclosed is read alike, if its parts are and none is read of nothing. -/
theorem readEnclosed?_leaves {closing : Char} {close : List α → Value}
    {read : Nat → List Char → Option (List α × List Char)} (hnil : ∀ fuel, read fuel [] = none)
    {fuel : Nat} (hread : ReadsAlike c 1 read fuel) {text : List Char}
    (hfuel : 2 * text.length + 1 ≤ fuel) :
    Leaves c text.length (readEnclosed? closing close (read fuel) text)
      (readEnclosed? closing close (read (fuel + 2)) (text ++ [c])) := by
  unfold readEnclosed?
  rcases skipGap_cases hc text with ⟨hskip, hskip'⟩ | ⟨d, rest, hd, hrest, hskip, hskip'⟩
  · rw [hskip, hskip', hnil, hnil]
    exact .nothing
  rw [hskip, hskip', List.head?_cons, List.head?_cons]
  split
  · exact .found hrest
  · refine ((hread (d :: rest) (by simp only [List.length_cons]; omega)).mono hrest).bind ?_
    intro parts left hleft
    exact .found hleft

/-- Values are read alike if items and members are. -/
theorem readsAlike_value {fuel : Nat} (hitems : ReadsAlike c 1 readItems? fuel)
    (hmembers : ReadsAlike c 1 readMembers? fuel) : ReadsAlike c 0 readValue? (fuel + 1) := by
  intro text hfuel
  have hword : ∀ {word : List Char}, word.all (fun letter => !isGap letter) = true → c ∉ word := by
    intro word hall hmem
    have := List.all_eq_true.1 hall c hmem
    simp [hc] at this
  rcases skipGap_cases hc text with ⟨htext, htext'⟩ | ⟨d, rest, hd, hrest, htext, htext'⟩
  · rw [readValue?, readValue?, htext, htext']
    exact .nothing
  by_cases hbracket : d = '['
  · subst hbracket
    rw [readValue?_bracket htext, readValue?_bracket htext']
    exact (readEnclosed?_leaves hc readItems?_nil hitems (by omega)).mono hrest.le
  by_cases hbrace : d = '\x7b'
  · subst hbrace
    rw [readValue?_brace htext, readValue?_brace htext']
    exact (readEnclosed?_leaves hc readMembers?_nil hmembers (by omega)).mono hrest.le
  rw [readValue?, readValue?, htext, htext']
  split
  case h_1 more heq | h_2 more heq | h_3 more heq =>
    obtain ⟨rfl, rfl⟩ := List.cons.inj heq
    simp only [List.length_cons] at hrest
    exact .found (by omega)
  case h_4 more heq =>
    obtain ⟨rfl, rfl⟩ := List.cons.inj heq
    exact (readString?_leaves hc rest).bind fun string more hmore => .found (hmore.trans hrest)
  case h_5 more heq => exact absurd (List.cons.inj heq).1 hbracket
  case h_6 more heq => exact absurd (List.cons.inj heq).1 hbrace
  case h_7 hnull htrue hfalse hquote _ _ =>
    -- The blank completes no word, so the longer text is no word either.
    split
    case h_1 more heq =>
      obtain ⟨left, hleft⟩ : ∃ left, d :: rest = ['n', 'u', 'l', 'l'] ++ left :=
        exists_eq_append_of_concat_eq (hword (by decide)) heq
      exact absurd hleft (hnull left)
    case h_2 more heq =>
      obtain ⟨left, hleft⟩ : ∃ left, d :: rest = ['t', 'r', 'u', 'e'] ++ left :=
        exists_eq_append_of_concat_eq (hword (by decide)) heq
      exact absurd hleft (htrue left)
    case h_3 more heq =>
      obtain ⟨left, hleft⟩ : ∃ left, d :: rest = ['f', 'a', 'l', 's', 'e'] ++ left :=
        exists_eq_append_of_concat_eq (hword (by decide)) heq
      exact absurd hleft (hfalse left)
    case h_4 more heq => exact absurd (by rw [(List.cons.inj heq).1]) (hquote rest)
    case h_5 more heq => exact absurd (List.cons.inj heq).1 hbracket
    case h_6 more heq => exact absurd (List.cons.inj heq).1 hbrace
    refine ((readNumeral?_leaves hc (d :: rest)).mono hrest).bind fun numeral left hleft => ?_
    exact .found hleft

/-- Items are read alike if values are, and items with less fuel. -/
theorem readsAlike_items {fuel : Nat} (hvalue : ReadsAlike c 0 readValue? fuel)
    (hitems : ReadsAlike c 1 readItems? fuel) : ReadsAlike c 1 readItems? (fuel + 1) := by
  intro text hfuel
  rw [readItems?, readItems?]
  refine (hvalue text (by omega)).bind fun item rest hrest => ?_
  dsimp only
  rcases skipGap_cases hc rest with ⟨hskip, hskip'⟩ | ⟨d, more, hd, hmore, hskip, hskip'⟩
  · rw [hskip, hskip']
    exact .nothing
  rw [hskip, hskip']
  by_cases hcomma : d = ','
  · subst hcomma
    refine (hitems more (by omega)).bind fun items left hleft => .found ?_
    show left.length < text.length
    omega
  by_cases hclose : d = ']'
  · subst hclose
    exact .found (by omega)
  · simpa [hcomma, hclose] using Leaves.nothing

/-- Members are read alike if values are, and members with less fuel. -/
theorem readsAlike_members {fuel : Nat} (hvalue : ReadsAlike c 0 readValue? fuel)
    (hmembers : ReadsAlike c 1 readMembers? fuel) : ReadsAlike c 1 readMembers? (fuel + 1) := by
  intro text hfuel
  rw [readMembers?, readMembers?]
  rcases skipGap_cases hc text with ⟨hskip, hskip'⟩ | ⟨d, name, hd, hname, hskip, hskip'⟩
  · rw [hskip, hskip']
    exact .nothing
  rw [hskip, hskip']
  by_cases hquote : d = '"'
  case neg =>
    simpa [hquote] using Leaves.nothing
  subst hquote
  -- A name, a colon, a value, and then a comma or the end: each is read alike on both texts.
  refine (readString?_leaves hc name).bind fun string rest hrest => ?_
  dsimp only
  rcases skipGap_cases hc rest with ⟨hskip, hskip'⟩ | ⟨d, value, hd, hvalueText, hskip, hskip'⟩
  · rw [hskip, hskip']
    exact .nothing
  rw [hskip, hskip']
  by_cases hcolon : d = ':'
  case neg =>
    simpa [hcolon] using Leaves.nothing
  subst hcolon
  refine (hvalue value (by omega)).bind fun v rest hrest => ?_
  dsimp only
  rcases skipGap_cases hc rest with ⟨hskip, hskip'⟩ | ⟨d, more, hd, hmore, hskip, hskip'⟩
  · rw [hskip, hskip']
    exact .nothing
  rw [hskip, hskip']
  by_cases hcomma : d = ','
  · subst hcomma
    refine (hmembers more (by omega)).bind fun members left hleft => .found ?_
    show left.length < text.length
    omega
  by_cases hclose : d = '\x7d'
  · subst hclose
    exact .found (by omega)
  · simpa [hcomma, hclose] using Leaves.nothing

/-- **Every reader reads alike**, by induction on the fuel. -/
theorem readsAlike (fuel : Nat) :
    ReadsAlike c 0 readValue? fuel ∧ ReadsAlike c 1 readItems? fuel ∧
      ReadsAlike c 1 readMembers? fuel := by
  induction fuel with
  | zero =>
    refine ⟨fun text hfuel => ?_, fun text hfuel => ?_, fun text hfuel => ?_⟩
    · obtain rfl : text = [] := List.length_eq_zero_iff.1 (by omega)
      rcases gap_cases hc with rfl | rfl | rfl | rfl <;> exact .nothing
    · omega
    · omega
  | succ fuel ih =>
    obtain ⟨hvalue, hitems, hmembers⟩ := ih
    exact ⟨readsAlike_value hc hitems hmembers, readsAlike_items hc hvalue hitems,
      readsAlike_members hc hvalue hmembers⟩

/-- **A blank behind a text makes no difference to its only value**, nor to its having one. -/
theorem readChars?_append_gap (text : List Char) :
    readChars? (text ++ [c]) = readChars? text := by
  have hread := (readsAlike hc (2 * text.length + 2)).1 text (by omega)
  have hfuel : 2 * (text ++ [c]).length + 2 = 2 * text.length + 2 + 2 := by
    rw [List.length_append, List.length_singleton]
    omega
  rw [readChars?, readChars?, hfuel]
  generalize readValue? _ text = found at hread
  generalize readValue? _ (text ++ [c]) = found' at hread
  cases hread with
  | nothing => rfl
  | @found v rest hrest =>
    have hempty : (skipGap (rest ++ [c])).isEmpty = (skipGap rest).isEmpty := by
      rcases skipGap_cases hc rest with ⟨hskip, hskip'⟩ | ⟨d, more, hd, hmore, hskip, hskip'⟩
      · rw [hskip, hskip']
      · rw [hskip, hskip']
        rfl
    simp only [Option.bind_eq_bind, Option.bind_some, hempty]

end gap

end CollisionWatch.Json
