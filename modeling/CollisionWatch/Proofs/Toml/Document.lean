import CollisionWatch.Proofs.Toml.Number
import CollisionWatch.Proofs.Toml.Quoted

/-!
# Lines of a TOML document, written and read back

A document is read statement by statement.  `IsRead` says that a text in front of any other is read
as a list of statements; the lines that the printer writes have this property if their keys need no
quotes and their values are read back, and the property passes to texts one after the other.
-/

namespace CollisionWatch.Toml

open Decimal (StopsBefore stopsBefore_cons)

/-! ## Blanks -/

/-- Neither a blank, nor a line end, nor the start of a comment. -/
def isSolid (c : Char) : Bool := !([' ', '\t', '\n', '\r', '#'].contains c)

/-- A solid character is no blank. -/
theorem isBlank_of_isSolid {c : Char} (h : isSolid c = true) : isBlank c = false := by
  simp [isSolid] at h
  simp [isBlank, h]

/-- Where no blank is, none is skipped. -/
theorem skipBlanks_of_stopsBefore {text : List Char} (h : StopsBefore isBlank text) :
    skipBlanks text = text := by
  cases text with
  | nil => rfl
  | cons c rest => simp [skipBlanks, stopsBefore_cons.1 h]

/-- A line that begins with a solid character is not passed over. -/
theorem skipLines?_of_isSolid {c : Char} (h : isSolid c = true) (fuel : Nat) (rest : List Char) :
    skipLines? (fuel + 1) (c :: rest) = some (c :: rest) := by
  have hskip := skipBlanks_of_stopsBefore (stopsBefore_cons.2 (isBlank_of_isSolid h) :
    StopsBefore isBlank (c :: rest))
  simp [isSolid] at h
  simp [skipLines?, hskip, h]

/-- An empty line is passed over. -/
theorem skipLines?_lineFeed (fuel : Nat) (rest : List Char) :
    skipLines? (fuel + 1) ('\n' :: rest) = skipLines? fuel rest := by
  simp [skipLines?, skipBlanks, isBlank]

/-- The blanks that indent a line are passed over. -/
theorem skipLines?_replicate (fuel count : Nat) (rest : List Char) :
    skipLines? fuel (List.replicate count ' ' ++ rest) = skipLines? fuel rest := by
  have hskip : skipBlanks (List.replicate count ' ' ++ rest) = skipBlanks rest := by
    refine List.dropWhile_append_of_pos fun c hc => ?_
    rw [List.eq_of_mem_replicate hc]
    rfl
  cases fuel with
  | zero => rfl
  | succ fuel => rw [skipLines?, skipLines?, hskip]

/-! ## Values -/

/-- A comma, a bracket or a line end comes next. -/
def EndsValue (rest : List Char) : Prop :=
  ∃ c more, rest = c :: more ∧ (c = ',' ∨ c = ']' ∨ c = '\n')

/-- A text is read as a value without parts. -/
def IsScalar (chars : List Char) (v : Value) : Prop :=
  ∀ rest, EndsValue rest → readScalar? (chars ++ rest) = some (v, rest)

/-- What ends a value is no character that a value goes on with. -/
theorem EndsValue.stopsBefore {rest : List Char} (h : EndsValue rest) {p : Char → Bool}
    (hp : [',', ']', '\n'].all (fun c => !p c) = true) : StopsBefore p rest := by
  obtain ⟨c, more, rfl, hc⟩ := h
  simp only [List.all_cons, List.all_nil, Bool.and_true, Bool.and_eq_true, Bool.not_eq_true'] at hp
  rcases hc with rfl | rfl | rfl
  · exact stopsBefore_cons.2 hp.1
  · exact stopsBefore_cons.2 hp.2.1
  · exact stopsBefore_cons.2 hp.2.2

/-- Digits are read as their number, if it is not too large. -/
theorem isScalar_digitsOfNat {n : Nat} (hn : (n : Int) ≤ largestInteger) :
    IsScalar (Decimal.digitsOfNat n) (.integer n) := fun _ hrest =>
  readScalar?_digitsOfNat hn (hrest.stopsBefore (by decide))

/-- The numeral of a legible double is read as that double. -/
theorem isScalar_floatChars {x : Float} (h : IsLegible x) :
    IsScalar (floatChars x) (.float x) := fun _ hrest =>
  readScalar?_floatChars h (hrest.stopsBefore (by decide))

/-- A written string starts with a quote. -/
theorem exists_stringChars (text : List Char) :
    ∃ c more, stringChars text = c :: more ∧ (c = '"' ∨ c = '\'') := by
  rcases hform : formFor (demands text) with ⟨basic, long⟩
  cases basic <;> cases long <;> simp [stringChars, hform, StringForm.quotes]

/-- A text between its quotes is read as the text. -/
theorem isScalar_stringChars (text : List Char) :
    IsScalar (stringChars text) (.string (String.ofList text)) := by
  intro rest hrest
  have hread := readString?_stringChars text rest (by
    obtain ⟨c, more, rfl, hc⟩ := hrest
    rcases hc with rfl | rfl | rfl <;> simp)
  obtain ⟨c, more, htext, hc⟩ := exists_stringChars text
  rw [htext, List.cons_append] at hread ⊢
  rw [readScalar?, if_pos hc, hread]
  rfl

/-- What starts a value without parts starts nothing else. -/
theorem isSolid_of_readScalar? {c : Char} {rest : List Char} {read : Value × List Char}
    (h : readScalar? (c :: rest) = some read) :
    isSolid c = true ∧ c ≠ ']' ∧ c ≠ '[' ∧ c ≠ '\x7b' := by
  have hother : ∀ d ∈ [' ', '\t', '\n', '\r', '#', ']', '[', '\x7b'], c ≠ d := by
    rintro d hd rfl
    fin_cases hd <;> simp [readScalar?] at h
  simp at hother
  simp [isSolid, hother]

/-- A scalar begins with a solid character that no array, table or end of an array begins with. -/
theorem IsScalar.exists_cons {chars : List Char} {v : Value} (h : IsScalar chars v) :
    ∃ c more, chars = c :: more ∧ isSolid c = true ∧ c ≠ ']' ∧ c ≠ '[' ∧ c ≠ '\x7b' := by
  have hread := h ['\n'] ⟨'\n', [], rfl, by simp⟩
  cases chars with
  | nil => cases hread
  | cons c more => exact ⟨c, more, rfl, isSolid_of_readScalar? hread⟩

/-- A scalar is read as a value. -/
theorem IsScalar.readValue? {chars : List Char} {v : Value} (h : IsScalar chars v) {rest : List Char}
    (hrest : EndsValue rest) (fuel depth : Nat) :
    readValue? (fuel + 1) depth (chars ++ rest) = some (v, rest) := by
  have hread := h rest hrest
  obtain ⟨c, more, rfl, -, -, hbracket, hbrace⟩ := h.exists_cons
  rw [List.cons_append] at hread ⊢
  simp [Toml.readValue?, hbracket, hbrace, hread]

/-- The end of the line ends a value. -/
theorem EndsValue.of_lineFeed (rest : List Char) : EndsValue ('\n' :: rest) :=
  ⟨'\n', rest, rfl, by simp⟩

/-! ## Lists -/

section

variable {α : Type} {chars : α → List Char} {value : α → Value}

/-- Every item takes a character at least. -/
theorem length_le_itemLines (items : List (List Char)) : items.length ≤ (itemLines items).length := by
  induction items with
  | nil => exact Nat.zero_le _
  | cons item items ih =>
    simp only [itemLines, List.flatMap_cons, List.length_append, List.length_cons] at ih ⊢
    omega

/-- The first item stands on a line of its own, indented and with a comma behind it. -/
theorem itemLines_cons (item : List Char) (items : List (List Char)) (rest : List Char) :
    itemLines (item :: items) ++ rest =
      List.replicate 4 ' ' ++ (item ++ ',' :: '\n' :: (itemLines items ++ rest)) := by
  simp [itemLines]

/-- Each item stands on a line of its own, behind four blanks. -/
theorem skipLines?_itemLine {c : Char} (h : isSolid c = true) (fuel : Nat) (rest : List Char) :
    skipLines? (fuel + 2) ('\n' :: (List.replicate 4 ' ' ++ c :: rest)) = some (c :: rest) := by
  rw [skipLines?_lineFeed, skipLines?_replicate, skipLines?_of_isSolid h]

/-- The first item of a list, before a comma. -/
theorem readItems?_of_item {fuel depth : Nat} {text more after rest : List Char} {c : Char}
    {item : Value} {items : List Value}
    (hskip : skipLines? (text.length + 1) text = some (c :: more)) (hbracket : c ≠ ']')
    (hread : readValue? fuel depth (c :: more) = some (item, ',' :: after))
    (hmore : readItems? fuel depth after = some (items, rest)) :
    readItems? (fuel + 1) depth text = some (item :: items, rest) := by
  have hcomma : skipLines? (after.length + 2) (',' :: after) = some (',' :: after) :=
    skipLines?_of_isSolid rfl _ _
  rw [readItems?, hskip]
  simp [hbracket, hread, hcomma, hmore]

/-- After the opening bracket the lines of the items are read up to the closing one. -/
theorem readItems?_itemLines {items : List α} (h : ∀ a ∈ items, IsScalar (chars a) (value a))
    {fuel : Nat} (hfuel : items.length < fuel) (depth : Nat) (rest : List Char) :
    readItems? fuel depth ('\n' :: (itemLines (items.map chars) ++ ']' :: rest)) =
      some (items.map value, rest) := by
  induction items generalizing fuel with
  | nil =>
    obtain ⟨fuel, rfl⟩ := Nat.exists_eq_add_one_of_ne_zero (Nat.ne_zero_of_lt hfuel)
    have hskip : skipLines? (rest.length + 3) ('\n' :: ']' :: rest) = some (']' :: rest) := by
      rw [skipLines?_lineFeed, skipLines?_of_isSolid rfl]
    simp [readItems?, itemLines, hskip]
  | cons a items ih =>
    have hlt : items.length + 1 < fuel := hfuel
    obtain ⟨fuel, rfl⟩ := Nat.exists_eq_add_one_of_ne_zero (Nat.ne_zero_of_lt hfuel)
    obtain ⟨fuel, rfl⟩ := Nat.exists_eq_add_one_of_ne_zero (by omega : fuel ≠ 0)
    have hmore := @ih (fun b hb => h b (List.mem_cons_of_mem a hb)) (fuel + 1) (by omega)
    rw [List.map_cons, itemLines_cons]
    generalize itemLines (items.map chars) ++ ']' :: rest = lines at hmore ⊢
    have hends : EndsValue (',' :: '\n' :: lines) := ⟨',', _, rfl, by simp⟩
    have hread := (h a (by simp)).readValue? hends fuel depth
    obtain ⟨c, more, hchars, hsolid, hbracket, -⟩ := (h a (by simp)).exists_cons
    rw [hchars, List.cons_append] at hread ⊢
    exact readItems?_of_item (skipLines?_itemLine hsolid _ _) hbracket hread hmore

/-- The last item of a list, before the closing bracket. -/
theorem readItems?_of_lastItem {fuel depth : Nat} {text more rest : List Char} {c : Char} {item : Value}
    (hskip : skipLines? (text.length + 1) text = some (c :: more)) (hbracket : c ≠ ']')
    (hread : readValue? fuel depth (c :: more) = some (item, ']' :: rest)) :
    readItems? (fuel + 1) depth text = some ([item], rest) := by
  have hclose : skipLines? (rest.length + 2) (']' :: rest) = some (']' :: rest) :=
    skipLines?_of_isSolid rfl _ _
  rw [readItems?, hskip]
  simp [hbracket, hread, hclose]

/-- An array is what its items are read as. -/
theorem readValue?_of_readItems? {fuel : Nat} {text rest : List Char} {items : List Value}
    (h : readItems? fuel (depthLimit - 1) text = some (items, rest)) :
    readValue? (fuel + 1) depthLimit ('[' :: text) = some (.array items, rest) := by
  simp [readValue?, depthLimit] at h ⊢
  simp [h]

/-- A text is read as the value of an entry. -/
structure IsValue (chars : List Char) (v : Value) : Prop where
  /-- It starts with no blank. -/
  start : ∀ rest, skipBlanks (chars ++ '\n' :: rest) = chars ++ '\n' :: rest
  /-- It is read up to the end of its line. -/
  read : ∀ rest, readValue? (2 * (chars ++ '\n' :: rest).length + 2) depthLimit
    (chars ++ '\n' :: rest) = some (v, '\n' :: rest)

/-- A scalar is a value. -/
theorem IsScalar.isValue {chars : List Char} {v : Value} (h : IsScalar chars v) : IsValue chars v where
  start rest := by
    obtain ⟨c, more, rfl, hsolid, -⟩ := h.exists_cons
    exact skipBlanks_of_stopsBefore (stopsBefore_cons.2 (isBlank_of_isSolid hsolid))
  read rest := h.readValue? (EndsValue.of_lineFeed rest) _ _

/-- **A list of values without parts is read back.** -/
theorem isValue_arrayChars {items : List α} (h : ∀ a ∈ items, IsScalar (chars a) (value a)) :
    IsValue (arrayChars (items.map chars)) (.array (items.map value)) where
  start rest := by
    match items with
    | [] => rfl
    | [_] => rfl
    | _ :: _ :: _ => rfl
  read rest := by
    match items with
    | [] =>
      have hskip : skipLines? (rest.length + 3) (']' :: '\n' :: rest) = some (']' :: '\n' :: rest) :=
        skipLines?_of_isSolid rfl _ _
      exact readValue?_of_readItems? (by simp [readItems?, hskip])
    | [a] =>
      have hscalar := h a (by simp)
      have hends : EndsValue (']' :: '\n' :: rest) := ⟨']', _, rfl, by simp⟩
      obtain ⟨c, more, hchars, hsolid, hbracket, -⟩ := hscalar.exists_cons
      have hread := hscalar.readValue? hends
      rw [hchars, List.cons_append] at hread
      have hitems : ∀ fuel,
          readItems? (fuel + 2) (depthLimit - 1) (c :: (more ++ ']' :: '\n' :: rest)) =
            some ([value a], '\n' :: rest) := fun fuel =>
        readItems?_of_lastItem (skipLines?_of_isSolid hsolid _ _) hbracket (hread fuel _)
      simpa [arrayChars, hchars, Nat.mul_add] using readValue?_of_readItems? (hitems _)
    | a :: b :: items =>
      have hlength := length_le_itemLines ((a :: b :: items).map chars)
      have hitems : readItems?
          (2 * (arrayChars ((a :: b :: items).map chars) ++ '\n' :: rest).length + 1) (depthLimit - 1)
          ('\n' :: (itemLines ((a :: b :: items).map chars) ++ ']' :: '\n' :: rest)) =
          some ((a :: b :: items).map value, '\n' :: rest) :=
        readItems?_itemLines h (by simp [arrayChars] at hlength ⊢; omega) _ _
      simpa [arrayChars] using readValue?_of_readItems? hitems

end

/-! ## Keys -/

/-- The text is a key without quotes. -/
def IsKey (key : String) : Prop := key.toList ≠ [] ∧ key.toList.all isKeyChar = true

/-- Whether a key needs no quotes is a question about its characters. -/
instance (key : String) : Decidable (IsKey key) :=
  inferInstanceAs (Decidable (key.toList ≠ [] ∧ key.toList.all isKeyChar = true))

/-- Such a key begins with a character of a key. -/
theorem IsKey.exists_cons {key : String} (h : IsKey key) :
    ∃ c more, key.toList = c :: more ∧ isKeyChar c = true := by
  obtain ⟨c, more, hkey⟩ := List.exists_cons_of_ne_nil h.1
  exact ⟨c, more, hkey, List.all_eq_true.1 h.2 c (by simp [hkey])⟩

/-- Characters of a key start nothing but a key. -/
theorem ne_of_isKeyChar {c d : Char} (h : isKeyChar c = true) (hd : isKeyChar d = false) : c ≠ d := by
  rintro rfl
  rw [h] at hd
  cases hd

/-- A character of a key is no blank. -/
theorem isBlank_of_isKeyChar {c : Char} (h : isKeyChar c = true) : isBlank c = false := by
  have hspace := ne_of_isKeyChar (d := ' ') h rfl
  have htab := ne_of_isKeyChar (d := '\t') h rfl
  simp [isBlank, hspace, htab]

/-- A key is read as one part. -/
theorem readKeyPart?_append {key : String} (h : IsKey key) {rest : List Char}
    (hrest : StopsBefore isKeyChar rest) : readKeyPart? (key.toList ++ rest) = some (key, rest) := by
  have hspan := Decimal.span_append (List.all_eq_true.1 h.2) hrest
  obtain ⟨c, more, hkey, hc⟩ := h.exists_cons
  have hdouble := ne_of_isKeyChar (d := '"') hc rfl
  have hsingle := ne_of_isKeyChar (d := '\'') hc rfl
  have hback : String.ofList (c :: more) = key := by rw [← hkey, String.ofList_toList]
  rw [hkey, List.cons_append] at hspan ⊢
  simp [readKeyPart?, hdouble, hsingle, hspan, hback, -List.span_eq_takeWhile_dropWhile]

/-- No blank stands in front of a key. -/
theorem skipBlanks_key {key : String} (h : IsKey key) (rest : List Char) :
    skipBlanks (key.toList ++ rest) = key.toList ++ rest := by
  obtain ⟨c, more, hkey, hc⟩ := h.exists_cons
  rw [hkey]
  exact skipBlanks_of_stopsBefore (stopsBefore_cons.2 (isBlank_of_isKeyChar hc))

/-- The parts of a dotted key. -/
theorem readKeyParts?_intercalate {parts : List String} (hne : parts ≠ [])
    (h : ∀ key ∈ parts, IsKey key) {fuel : Nat} (hfuel : parts.length ≤ fuel) {rest : List Char}
    (hrest : StopsBefore isKeyChar rest) (hdot : ∀ more, skipBlanks rest ≠ '.' :: more) :
    readKeyParts? fuel ((".".intercalate parts).toList ++ rest) = some (parts, skipBlanks rest) := by
  induction parts generalizing fuel with
  | nil => exact absurd rfl hne
  | cons key parts ih =>
    have hkey := h key (by simp)
    obtain ⟨fuel, rfl⟩ := Nat.exists_eq_add_one_of_ne_zero (Nat.ne_zero_of_lt hfuel)
    by_cases hparts : parts = []
    · subst hparts
      simp [readKeyParts?, skipBlanks_key hkey, readKeyPart?_append hkey hrest]
    · have hmore := @ih hparts (fun k hk => h k (List.mem_cons_of_mem key hk)) fuel
        (Nat.le_of_succ_le_succ hfuel)
      rw [String.intercalate_cons_of_ne_nil hparts, String.toList_append, String.toList_append]
      generalize (".".intercalate parts).toList = tail at hmore ⊢
      have hpoint : StopsBefore isKeyChar ('.' :: (tail ++ rest)) := stopsBefore_cons.2 rfl
      have hskip : skipBlanks ('.' :: (tail ++ rest)) = '.' :: (tail ++ rest) :=
        skipBlanks_of_stopsBefore (stopsBefore_cons.2 rfl)
      simp [readKeyParts?, skipBlanks_key hkey, readKeyPart?_append hkey hpoint, hskip, hmore]

/-- A dotted path is read as the keys that lead to a table, and the last one. -/
theorem readKey?_intercalate {path : List String} (hne : path ≠ []) (h : ∀ key ∈ path, IsKey key)
    (hdepth : path.length < depthLimit) {rest : List Char} (hrest : StopsBefore isKeyChar rest)
    (hdot : ∀ more, skipBlanks rest ≠ '.' :: more) :
    readKey? ((".".intercalate path).toList ++ rest) =
      some (path.dropLast, path.getLast hne, skipBlanks rest) := by
  rw [readKey?, readKeyParts?_intercalate hne h hdepth.le hrest hdot]
  simp only [Option.bind_eq_bind, Option.bind_some, if_neg (Nat.not_le.2 hdepth)]
  simp [List.getLast?_eq_getLast_of_ne_nil hne]

/-- The key of an entry. -/
theorem readKey?_key {key : String} (h : IsKey key) (rest : List Char) :
    readKey? (key.toList ++ ' ' :: '=' :: rest) = some ([], key, '=' :: rest) := by
  have hname : ∀ name ∈ [key], IsKey name := by simpa using h
  have hread := readKey?_intercalate (List.cons_ne_nil key []) hname
    (show [key].length < depthLimit from of_decide_eq_true rfl)
    (stopsBefore_cons.2 rfl : StopsBefore isKeyChar (' ' :: '=' :: rest))
    (by simp [skipBlanks, isBlank])
  simpa [skipBlanks, isBlank] using hread

/-- The key of a header. -/
theorem readKey?_header {path : List String} (hne : path ≠ []) (h : ∀ key ∈ path, IsKey key)
    (hdepth : path.length < depthLimit) (rest : List Char) :
    readKey? ((".".intercalate path).toList ++ ']' :: rest) =
      some (path.dropLast, path.getLast hne, ']' :: rest) := by
  have hskip : skipBlanks (']' :: rest) = ']' :: rest :=
    skipBlanks_of_stopsBefore (stopsBefore_cons.2 rfl)
  have hread := readKey?_intercalate hne h hdepth
    (stopsBefore_cons.2 rfl : StopsBefore isKeyChar (']' :: rest)) (by simp [hskip])
  rwa [hskip] at hread

/-- The key of a header starts with no bracket. -/
theorem exists_intercalate {path : List String} (hne : path ≠ []) (h : ∀ key ∈ path, IsKey key) :
    ∃ c more, (".".intercalate path).toList = c :: more ∧ isKeyChar c = true := by
  obtain ⟨key, keys, rfl⟩ := List.exists_cons_of_ne_nil hne
  obtain ⟨c, more, hkey, hc⟩ := (h key (by simp)).exists_cons
  cases keys with
  | nil => exact ⟨c, more, by simpa using hkey, hc⟩
  | cons next keys =>
    rw [String.intercalate_cons_of_ne_nil (List.cons_ne_nil next keys), String.toList_append,
      String.toList_append, hkey]
    exact ⟨c, _, rfl, hc⟩

/-! ## Lines -/

/-- Nothing is left on a line that ends. -/
theorem readLineRest?_lineFeed (rest : List Char) : readLineRest? ('\n' :: rest) = some rest := by
  simp [readLineRest?, skipBlanks, isBlank, skipComment, readLineEnd?]

/-- In front of any other text, a text is read as statements. -/
structure IsRead (chars : List Char) (statements : List Statement) : Prop where
  /-- Each statement has a character of its own. -/
  length_le : statements.length ≤ chars.length
  /-- The statements come before those of the rest. -/
  read : ∀ fuel rest, readStatements? (fuel + statements.length) (chars ++ rest) =
    (readStatements? fuel rest).map (statements ++ ·)

namespace IsRead

/-- The empty text states nothing. -/
theorem nil : IsRead [] [] where
  length_le := le_refl _
  read fuel rest := by simp

/-- Texts one after the other are read as the statements of each. -/
theorem append {chars more : List Char} {statements others : List Statement}
    (h : IsRead chars statements) (hmore : IsRead more others) :
    IsRead (chars ++ more) (statements ++ others) where
  length_le := by
    simp only [List.length_append]
    exact Nat.add_le_add h.length_le hmore.length_le
  read fuel rest := by
    rw [List.append_assoc, List.length_append, Nat.add_comm statements.length, ← Nat.add_assoc, h.read,
      hmore.read, Option.map_map]
    simp [Function.comp_def]

/-- Lines of any number of items are read if those of each item are. -/
theorem flatMap {α : Type} {items : List α} {chars : α → List Char} {statements : α → List Statement}
    (h : ∀ a ∈ items, IsRead (chars a) (statements a)) :
    IsRead (items.flatMap chars) (items.flatMap statements) := by
  induction items with
  | nil => exact nil
  | cons a items ih =>
    rw [List.flatMap_cons, List.flatMap_cons]
    exact (h a (by simp)).append (ih fun b hb => h b (List.mem_cons_of_mem a hb))

/-- One statement, at the start of a line. -/
theorem of_statement {c : Char} {more : List Char} {statement : Statement} (hc : isBlank c = false)
    (h : ∀ rest, readStatement? (c :: (more ++ rest)) = some (statement, rest)) :
    IsRead (c :: more) [statement] where
  length_le := by simp
  read fuel rest := by
    have hskip : skipBlanks (c :: (more ++ rest)) = c :: (more ++ rest) :=
      skipBlanks_of_stopsBefore (stopsBefore_cons.2 hc)
    rw [List.cons_append, List.length_singleton, readStatements?, hskip]
    simp [h, Option.map_eq_bind]

/-- The line of an entry. -/
theorem entryLine {key : String} {value : List Char} {v : Value} (hkey : IsKey key)
    (hvalue : IsValue value v) : IsRead (Toml.entryLine key value) [.entry ⟨[], key, v⟩] := by
  obtain ⟨c, more, hchars, hc⟩ := hkey.exists_cons
  have hline : Toml.entryLine key value = c :: (more ++ ' ' :: '=' :: ' ' :: (value ++ ['\n'])) := by
    simp [Toml.entryLine, hchars]
  rw [hline]
  refine of_statement (isBlank_of_isKeyChar hc) fun rest => ?_
  have hread := readKey?_key hkey (' ' :: (value ++ '\n' :: rest))
  have hskip : skipBlanks (' ' :: (value ++ '\n' :: rest)) = value ++ '\n' :: rest :=
    hvalue.start rest
  have hentry : readEntry? (key.toList ++ ' ' :: '=' :: ' ' :: (value ++ '\n' :: rest)) =
      some (.entry ⟨[], key, v⟩, rest) := by
    have hvalue := hvalue.read rest
    simp only [List.length_append, List.length_cons] at hvalue
    simp [hread, readEntry?, hskip, hvalue, readLineRest?_lineFeed]
  rw [hchars] at hentry
  have hbracket := ne_of_isKeyChar (d := '[') hc rfl
  have hcomment := ne_of_isKeyChar (d := '#') hc rfl
  have hfeed := ne_of_isKeyChar (d := '\n') hc rfl
  have hreturn := ne_of_isKeyChar (d := '\r') hc rfl
  simpa [readStatement?, hbracket, hcomment, hfeed, hreturn] using hentry

/-- An empty line states nothing. -/
theorem blankLine : IsRead ['\n'] [.blank] := of_statement rfl fun _ => rfl

/-- The empty line and the header of a table. -/
theorem tableLine (path : List String) (hne : path ≠ []) (h : ∀ key ∈ path, IsKey key)
    (hdepth : path.length < depthLimit) :
    IsRead (Toml.tableLine path) [.blank, .header .table path] := by
  refine blankLine.append (of_statement rfl fun rest => ?_)
  have hread := readKey?_header hne h hdepth ('\n' :: rest)
  have hpath : path.dropLast ++ [path.getLast hne] = path := List.dropLast_concat_getLast hne
  obtain ⟨c, more, hchars, hc⟩ := exists_intercalate hne h
  have hbracket := ne_of_isKeyChar (d := '[') hc rfl
  rw [hchars] at hread ⊢
  simp only [List.cons_append, List.append_assoc, List.nil_append] at hread ⊢
  simp [readStatement?, hbracket, readHeader?, hread, readLineRest?_lineFeed, hpath]

/-- The empty line and the header of one more of several tables. -/
theorem oneOfManyLine (path : List String) (hne : path ≠ []) (h : ∀ key ∈ path, IsKey key)
    (hdepth : path.length < depthLimit) :
    IsRead (Toml.oneOfManyLine path) [.blank, .header .oneOfMany path] := by
  refine blankLine.append (of_statement rfl fun rest => ?_)
  have hread := readKey?_header hne h hdepth (']' :: '\n' :: rest)
  have hpath : path.dropLast ++ [path.getLast hne] = path := List.dropLast_concat_getLast hne
  generalize (".".intercalate path).toList = chars at hread ⊢
  simp [readStatement?, readHeader?, hread, readLineRest?_lineFeed, hpath]

/-- **A whole text is read as its statements.** -/
theorem readStatements? {chars : List Char} {statements : List Statement}
    (h : IsRead chars statements) : readStatements? (chars.length + 1) chars = some statements := by
  have hlength := h.length_le
  have hread := h.read (chars.length - statements.length + 1) []
  have hfuel : chars.length - statements.length + 1 + statements.length = chars.length + 1 := by omega
  rw [hfuel] at hread
  simpa [Toml.readStatements?, skipBlanks] using hread

end IsRead

end CollisionWatch.Toml
