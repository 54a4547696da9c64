import CollisionWatch.Wire.Identifier
import Mathlib

/-!
# Identifiers written and read back

Every identifier is read back from its thirty-two digits in five groups (`readIdentifier?_text`).
-/

namespace CollisionWatch.Wire

open Json (hexValue? natOfHex?)

/-- As many digits are written as are asked for. -/
theorem length_hexDigits (count n : Nat) : (hexDigits count n).length = count := by
  induction count generalizing n with
  | zero => rfl
  | succ count ih => rw [hexDigits, List.length_append, ih, List.length_singleton]

/-- A written digit is one of the sixteen in lower case. -/
theorem exists_digitChar_of_mem_hexDigits {count n : Nat} {c : Char} (h : c ∈ hexDigits count n) :
    ∃ d < 16, c = Nat.digitChar d := by
  induction count generalizing n with
  | zero => cases h
  | succ count ih =>
    rw [hexDigits] at h
    rcases List.mem_append.1 h with h | h
    · exact ih h
    · exact ⟨n % 16, Nat.mod_lt n (by decide), List.mem_singleton.1 h⟩

/-- Digits in base sixteen spell the number, up to what they have places for. -/
theorem natOfHex?_hexDigits (count n : Nat) :
    natOfHex? (hexDigits count n) = some (n % 16 ^ count) := by
  induction count generalizing n with
  | zero => simp [natOfHex?, hexDigits, Nat.mod_one]
  | succ count ih =>
    have hvalue : ∀ d < 16, hexValue? (Nat.digitChar d) = some d := by decide
    have hlast := hvalue (n % 16) (Nat.mod_lt n (by decide))
    have hmod : n % 16 ^ (count + 1) = 16 * (n / 16 % 16 ^ count) + n % 16 := by
      rw [pow_succ', Nat.mod_mul]
      omega
    simp only [natOfHex?] at ih ⊢
    rw [hexDigits, List.foldlM_append, ih]
    simp [hlast, hmod]

/-- Five groups make up the digits. -/
theorem groups_eq {digits : List Char} (h : digits.length = 32) :
    digits.take 8 ++ ((digits.drop 8).take 4 ++ ((digits.drop 12).take 4 ++
      ((digits.drop 16).take 4 ++ (digits.drop 20).take 12))) = digits := by
  have hjoin : ∀ start count, (digits.drop start).take count ++ digits.drop (start + count) =
      digits.drop start := fun start count => by
    rw [← List.drop_drop, List.take_append_drop]
  have hlast : (digits.drop 20).take 12 = digits.drop 20 :=
    List.take_of_length_le (by rw [List.length_drop, h])
  rw [hlast, hjoin 16 4, hjoin 12 4, hjoin 8 4, List.take_append_drop]

/-- Five groups with hyphens between them are an identifier. -/
theorem readHyphenated?_groups {a b c d e : List Char} (hlengths : a.length = 8 ∧ b.length = 4 ∧
      c.length = 4 ∧ d.length = 4 ∧ e.length = 12)
    (hdigits : ∀ x ∈ a ++ (b ++ (c ++ (d ++ e))), x ≠ '-') :
    readHyphenated? (a ++ '-' :: (b ++ '-' :: (c ++ '-' :: (d ++ '-' :: e)))) =
      readDigits? (a ++ (b ++ (c ++ (d ++ e)))) := by
  obtain ⟨ha, hb, hc, hd, he⟩ := hlengths
  simp only [List.mem_append, or_imp, forall_and] at hdigits
  have hkeep : ∀ {part : List Char}, (∀ x ∈ part, x ≠ '-') → part.filter (· != '-') = part :=
    fun h => List.filter_eq_self.2 fun x hx => by simpa using h x hx
  rw [readHyphenated?, if_pos]
  · simp [hkeep hdigits.1, hkeep hdigits.2.1, hkeep hdigits.2.2.1, hkeep hdigits.2.2.2.1,
      hkeep hdigits.2.2.2.2]
  · simp [ha, hb, hc, hd, he, hyphens, List.getElem?_append]

/-- What starts with a digit is not wrapped in anything. -/
theorem withoutWrapping_digit {d : Nat} (hd : d < 16) (rest : List Char) :
    withoutWrapping (Nat.digitChar d :: rest) = Nat.digitChar d :: rest := by
  have hother : ∀ d < 16, Nat.digitChar d ≠ '\x7b' ∧ (Nat.digitChar d).toLower ≠ 'u' := by decide
  obtain ⟨hbrace, hmark⟩ := hother d hd
  simp [withoutWrapping, hbrace, urnMark, hmark]

/-- **An identifier is read back.** -/
theorem readIdentifier?_text (id : Identifier) : readIdentifier? (identifierText id) = some id := by
  have hlength := length_hexDigits 32 id.toNat
  have hvalue := natOfHex?_hexDigits 32 id.toNat
  have hmem : ∀ c ∈ hexDigits 32 id.toNat, ∃ d < 16, c = Nat.digitChar d :=
    fun c hc => exists_digitChar_of_mem_hexDigits hc
  rw [readIdentifier?, identifierText, String.toList_ofList, identifierChars]
  generalize hexDigits 32 id.toNat = digits at hlength hvalue hmem ⊢
  have hnoHyphen : ∀ d < 16, Nat.digitChar d ≠ '-' := by decide
  have hhyphen : ∀ c ∈ digits, c ≠ '-' := by
    intro c hc
    obtain ⟨d, hd, rfl⟩ := hmem c hc
    exact hnoHyphen d hd
  have hgroups := groups_eq hlength
  have hread := @readHyphenated?_groups (digits.take 8) ((digits.drop 8).take 4)
    ((digits.drop 12).take 4) ((digits.drop 16).take 4) ((digits.drop 20).take 12)
    (by simp [hlength]) (by rwa [hgroups])
  have hid : readDigits? digits = some id := by
    have hmod : id.toNat % 16 ^ 32 = id.toNat := Nat.mod_eq_of_lt id.isLt
    rw [readDigits?, if_pos hlength, hvalue, hmod, Option.map_some, BitVec.ofNat_toNat,
      BitVec.setWidth_eq]
  -- The plain form has to fail first: the text with hyphens is too long for it.
  have hplain : readDigits? (digits.take 8 ++ '-' :: ((digits.drop 8).take 4 ++ '-' ::
      ((digits.drop 12).take 4 ++ '-' :: ((digits.drop 16).take 4 ++ '-' ::
        (digits.drop 20).take 12)))) = none := by
    rw [readDigits?, if_neg (by simp [hlength])]
  obtain ⟨c, more, rfl⟩ := List.exists_cons_of_length_pos (hlength ▸ by decide : 0 < digits.length)
  obtain ⟨d, hd, rfl⟩ := hmem c (by simp)
  have hwhole := withoutWrapping_digit hd
  rw [hgroups, hid] at hread
  simp only [List.drop_zero, List.append_assoc, List.cons_append, List.take_succ_cons] at hplain hread ⊢
  rw [hplain, hwhole, hread]
  rfl

end CollisionWatch.Wire
