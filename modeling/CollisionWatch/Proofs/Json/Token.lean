import CollisionWatch.Json.Printer
import CollisionWatch.Json.Reader
import CollisionWatch.Proofs.Decimal.Digits
import Mathlib

/-!
# Tokens of a JSON text

A proper numeral is read back from its characters wherever they stand, unless what follows goes on
with it (`readNumeral?_chars`); a string is read back from what stands between its quotes, whatever
the text and whatever follows (`readString?_escape`).  Neither holds a control character when
written, a line end least of all (`isOneLine_chars`, `isOneLine_stringChars`).
-/

namespace CollisionWatch.Json

open Decimal

/-! ## Numerals -/

/-- Characters that would go on with a numeral. -/
def continuesNumeral (c : Char) : Bool := c.isDigit || c == '.' || c == 'e' || c == 'E'

section Numerals

variable {digits rest : List Char}

/-- Digits without a leading zero are read as a whole part. -/
theorem readWhole?_append (h : AreDigits digits) (hzero : ¬ HasLeadingZero digits)
    (hrest : StopsBefore Char.isDigit rest) : readWhole? (digits ++ rest) = some (digits, rest) := by
  rw [readWhole?, spanDigits_append h hrest]
  split
  · rename_i heq
    exact absurd (congrArg Prod.fst heq) h.ne_nil
  · rename_i heq
    cases heq
    exact absurd ⟨rfl, by simp⟩ hzero
  · rename_i heq
    cases heq
    rfl

/-- What is behind a point is read as a fraction, up to the first character that is no digit. -/
theorem readFraction?_pointChars {fraction : Option (List Char)}
    (h : ∀ digits ∈ fraction, AreDigits digits) (hdigit : StopsBefore Char.isDigit rest)
    (hpoint : StopsBefore (· == '.') rest) :
    readFraction? (pointChars fraction ++ rest) = some (fraction, rest) := by
  cases fraction with
  | none =>
    rw [pointChars, List.nil_append, readFraction?]
    rintro more rfl
    simp [stopsBefore_cons] at hpoint
  | some digits =>
    simp only [pointChars, List.cons_append, readFraction?, spanDigits_append (h digits rfl) hdigit]
    split
    · rename_i heq
      exact absurd (congrArg Prod.fst heq) (h digits rfl).ne_nil
    · rename_i heq
      cases heq
      rfl

/-- An exponent is read with its sign. -/
theorem readSignedDigits?_append {e : Exponent} (h : AreDigits e.digits)
    (hdigit : StopsBefore Char.isDigit rest) :
    readSignedDigits? (e.sign.text ++ (e.digits ++ rest)) = some (e, rest) := by
  obtain ⟨c, digits, hdigits⟩ := List.exists_cons_of_ne_nil h.ne_nil
  have hc : c.isDigit = true := h.isDigit c (by simp [hdigits])
  have hplus : c ≠ '+' := by rintro rfl; cases hc
  have hminus : c ≠ '-' := by rintro rfl; cases hc
  have hspan := spanDigits_append h hdigit
  obtain ⟨sign, _⟩ := e
  subst hdigits
  cases sign <;> simp_all [readSignedDigits?, ExponentSign.text]

/-- A power of ten is read where one is written, and nowhere else. -/
theorem readPower?_powerChars {exponent : Option Exponent} (h : ∀ e ∈ exponent, AreDigits e.digits)
    (hrest : StopsBefore continuesNumeral rest) :
    readPower? (powerChars exponent ++ rest) = some (exponent, rest) := by
  cases exponent with
  | none =>
    rw [powerChars, List.nil_append, readPower?]
    all_goals
      rintro more rfl
      simp [stopsBefore_cons, continuesNumeral] at hrest
  | some e =>
    rw [powerChars, Exponent.text, List.cons_append, List.append_assoc, readPower?,
      readSignedDigits?_append (h e rfl) (hrest.mono (by simp +contextual [continuesNumeral]))]
    rfl

end Numerals

/-- **A proper numeral is read back.** -/
theorem readNumeral?_chars {n : Numeral} (h : n.IsProper) {rest : List Char}
    (hrest : StopsBefore continuesNumeral rest) : readNumeral? (n.chars ++ rest) = some (n, rest) := by
  have hdigit : StopsBefore Char.isDigit rest := hrest.mono (by simp +contextual [continuesNumeral])
  have hpoint : StopsBefore (· == '.') rest := hrest.mono (by simp +contextual [continuesNumeral])
  obtain ⟨negative, whole, fraction, exponent⟩ := n
  have hpower := readPower?_powerChars h.exponent hrest
  have hfraction := readFraction?_pointChars h.fraction (stopsBefore_powerChars exponent rfl hdigit)
    (stopsBefore_powerChars exponent rfl hpoint)
  have hwhole := readWhole?_append h.whole h.noLeadingZero
    (stopsBefore_pointChars fraction rfl (stopsBefore_powerChars exponent rfl hdigit))
  obtain ⟨c, more, rfl⟩ := List.exists_cons_of_ne_nil h.whole.ne_nil
  -- a digit in front is no sign
  have hminus : c ≠ '-' := by
    rintro rfl
    cases h.whole.isDigit '-' (by simp)
  rw [Numeral.chars_eq]
  simp only [List.cons_append, List.append_assoc] at hwhole hfraction hpower ⊢
  cases negative <;> simp [readNumeral?, signChars, hminus, hwhole, hfraction, hpower]

/-! ## Strings -/

/-- The piece of a string that spells one character. -/
def Piece.Spells (piece : Piece) (c : Char) : Prop :=
  ∀ rest, spell? (piece :: rest) = (spell? rest).map (c :: ·)

/-- A plain piece spells its character. -/
theorem Piece.spells_plain (c : Char) : (Piece.plain c).Spells c := fun _ => by rw [spell?]

/-- A unit spells its character, if that is a control character. -/
theorem Piece.spells_unit {c : Char} (h : c.toNat < 0x20) : (Piece.unit c.toNat).Spells c := by
  intro rest
  have hlow : isLowHalf c.toNat = false := by simp [isLowHalf]; omega
  have hhigh : isHighHalf c.toNat = false := by simp [isHighHalf]; omega
  rw [spell?.eq_def]
  simp [hlow, hhigh]

/-- Two hexadecimal digits after two zeros spell a control character. -/
theorem natOfHex?_hexDigit {n : Nat} (h : n < 0x20) :
    natOfHex? ['0', '0', hexDigit (n / 16), hexDigit (n % 16)] = some n := by
  revert n
  decide

/-- A piece in front of those of a text. -/
def prependPiece (piece : Piece) (read : Option (List Piece × List Char)) :
    Option (List Piece × List Char) := read.map fun (pieces, rest) => (piece :: pieces, rest)

/-- A letter behind a backslash is read as the character that it is short for. -/
theorem readPieces?_letter {letter c : Char} (hletter : letter ≠ 'u') (h : unescape? letter = some c)
    (text : List Char) :
    readPieces? ('\\' :: letter :: text) = prependPiece (.plain c) (readPieces? text) := by
  rw [readPieces?.eq_def]
  cases hread : readPieces? text <;> simp [hletter, h, hread, prependPiece]

/-- Four digits behind a backslash and a `u` are read as a unit. -/
theorem readPieces?_unit {a b c d : Char} {n : Nat} (h : natOfHex? [a, b, c, d] = some n)
    (text : List Char) :
    readPieces? ('\\' :: 'u' :: a :: b :: c :: d :: text) =
      prependPiece (.unit n) (readPieces? text) := by
  cases hread : readPieces? text <;> simp [readPieces?, h, hread, prependPiece]

/-- Any other character is read as itself, unless it ends the string or may not stand there. -/
theorem readPieces?_plain {c : Char} (hquote : c ≠ '"') (hbackslash : c ≠ '\\') (hc : 0x20 ≤ c.toNat)
    (text : List Char) : readPieces? (c :: text) = prependPiece (.plain c) (readPieces? text) := by
  have hlow : ¬ c.toNat < 0x20 := by omega
  rw [readPieces?.eq_def]
  cases hread : readPieces? text <;> simp_all [prependPiece]

/-- A character as written is read as one piece, which spells it. -/
theorem readPieces?_escape (c : Char) (text : List Char) : ∃ piece : Piece, piece.Spells c ∧
    readPieces? (escape c ++ text) = prependPiece piece (readPieces? text) := by
  have hletter : ∀ letter : Char, letter ≠ 'u' → unescape? letter = some c → ∃ piece : Piece,
      piece.Spells c ∧
        readPieces? (['\\', letter] ++ text) = prependPiece piece (readPieces? text) :=
    fun letter hu h => ⟨.plain c, Piece.spells_plain c, readPieces?_letter hu h text⟩
  unfold escape
  split_ifs with hquote hbackslash hbackspace hfeed hline hreturn htab hcontrol
  · exact hletter '"' (by decide) (by rw [hquote]; rfl)
  · exact hletter '\\' (by decide) (by rw [hbackslash]; rfl)
  · exact hletter 'b' (by decide) (by rw [hbackspace]; rfl)
  · exact hletter 'f' (by decide) (by rw [hfeed]; rfl)
  · exact hletter 'n' (by decide) (by rw [hline]; rfl)
  · exact hletter 'r' (by decide) (by rw [hreturn]; rfl)
  · exact hletter 't' (by decide) (by rw [htab]; rfl)
  · exact ⟨_, Piece.spells_unit hcontrol, readPieces?_unit (natOfHex?_hexDigit hcontrol) text⟩
  · exact ⟨_, Piece.spells_plain c, readPieces?_plain hquote hbackslash (by omega) text⟩

/-- The characters of a text are read back as pieces that spell it. -/
theorem readPieces?_flatMap_escape (cs rest : List Char) : ∃ pieces,
    readPieces? (cs.flatMap escape ++ '"' :: rest) = some (pieces, rest) ∧ spell? pieces = some cs := by
  induction cs with
  | nil => exact ⟨[], by simp [readPieces?], rfl⟩
  | cons c cs ih =>
    obtain ⟨pieces, hread, hspell⟩ := ih
    obtain ⟨piece, hpiece, hescape⟩ := readPieces?_escape c (cs.flatMap escape ++ '"' :: rest)
    refine ⟨piece :: pieces, ?_, ?_⟩
    · rw [List.flatMap_cons, List.append_assoc, hescape, hread]
      rfl
    · rw [hpiece, hspell]
      rfl

/-- **A string is read back**, whatever characters it has. -/
theorem readString?_escape (text : String) (rest : List Char) :
    readString? (text.toList.flatMap escape ++ '"' :: rest) = some (some text, rest) := by
  obtain ⟨pieces, hread, hspell⟩ := readPieces?_flatMap_escape text.toList rest
  simp [readString?, hread, hspell]

/-! ## Line ends -/

/-- No control character stands in a text, a line end least of all. -/
def IsOneLine (text : List Char) : Prop := ∀ c ∈ text, 0x20 ≤ c.toNat

/-- The empty text is on one line. -/
theorem isOneLine_nil : IsOneLine [] := by simp [IsOneLine]

/-- A text is on one line if its first character is no control character and the rest is. -/
theorem isOneLine_cons {c : Char} {text : List Char} :
    IsOneLine (c :: text) ↔ 0x20 ≤ c.toNat ∧ IsOneLine text := by
  simp [IsOneLine]

/-- Texts on one line make a text on one line. -/
theorem isOneLine_append {a b : List Char} : IsOneLine (a ++ b) ↔ IsOneLine a ∧ IsOneLine b := by
  simp [IsOneLine, or_imp, forall_and]

/-- Whatever character is escaped, the result is on one line. -/
theorem isOneLine_escape (c : Char) : IsOneLine (escape c) := by
  have hdigit : ∀ n < 0x20, 0x20 ≤ (hexDigit (n / 16)).toNat ∧ 0x20 ≤ (hexDigit (n % 16)).toNat := by
    decide
  unfold escape
  split_ifs with hquote hbackslash hbackspace hfeed hline hreturn htab hcontrol
  iterate 7 · simp [IsOneLine]
  · have hfirst := (hdigit _ hcontrol).1
    have hsecond := (hdigit _ hcontrol).2
    simp [IsOneLine, hfirst, hsecond]
  · simp only [IsOneLine, List.mem_singleton, forall_eq]
    omega

/-- A string is written on one line. -/
theorem isOneLine_stringChars (text : String) : IsOneLine (stringChars text) := by
  rw [stringChars, isOneLine_cons, isOneLine_append]
  refine ⟨by decide, fun c hc => ?_, by simp [IsOneLine]⟩
  obtain ⟨d, -, hd⟩ := List.mem_flatMap.1 hc
  exact isOneLine_escape d c hd

/-- Digits stand on one line. -/
theorem isOneLine_digits {digits : List Char} (h : AreDigits digits) : IsOneLine digits :=
  fun c hc => le_trans (by decide) (toNat_of_isDigit (h.isDigit c hc)).1

/-- A numeral is written on one line. -/
theorem isOneLine_chars {n : Numeral} (h : n.IsProper) : IsOneLine n.chars := by
  rw [Numeral.chars_eq]
  refine isOneLine_append.2 ⟨?_, isOneLine_append.2 ⟨isOneLine_digits h.whole,
    isOneLine_append.2 ⟨?_, ?_⟩⟩⟩
  · cases n.negative <;> simp [signChars, IsOneLine]
  · cases hfraction : n.fraction with
    | none => exact isOneLine_nil
    | some digits => exact isOneLine_cons.2 ⟨by decide, isOneLine_digits (h.fraction digits hfraction)⟩
  · cases hexponent : n.exponent with
    | none => exact isOneLine_nil
    | some e =>
      have hsign : IsOneLine e.sign.text := by cases e.sign <;> simp [ExponentSign.text, IsOneLine]
      exact isOneLine_cons.2 ⟨by decide,
        isOneLine_append.2 ⟨hsign, isOneLine_digits (h.exponent e hexponent)⟩⟩

end CollisionWatch.Json
