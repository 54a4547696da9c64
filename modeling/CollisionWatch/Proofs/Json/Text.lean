import CollisionWatch.Proofs.Json.Token

/-!
# Values written and read back

A value is sound if its numerals are proper and its names are whole; whatever this library writes is.
On one line a sound value is read back as it was (`read?_compact`), and the line holds no control
character (`isOneLine_valueChars`).

The reader takes a step of fuel for a value and one for each item, so twice the length of the text
is enough for it.
-/

namespace CollisionWatch.Json

open Decimal

/-- A value that a text can hold. -/
inductive Value.IsSound : Value → Prop
  | null : IsSound .null
  | bool (truth : Bool) : IsSound (.bool truth)
  | number {n : Numeral} (h : n.IsProper) : IsSound (.number n)
  | string (text : String) : IsSound (.string text)
  | array {items : List Value} (h : ∀ v ∈ items, IsSound v) : IsSound (.array items)
  | object {members : List (Option String × Value)} (hnames : ∀ m ∈ members, m.1.isSome)
      (h : ∀ m ∈ members, IsSound m.2) : IsSound (.object members)

/-- The value is read back from its characters, whatever follows them. -/
def ReadsBack (v : Value) : Prop :=
  ∀ fuel rest, 2 * (valueChars v).length ≤ fuel → StopsBefore continuesNumeral rest →
    readValue? fuel (valueChars v ++ rest) = some (v, rest)

/-! ## The first character -/

/-- Characters that start a value. -/
def startsValue (c : Char) : Bool :=
  c ∈ ['n', 't', 'f', '"', '[', '\x7b', '-'] || c.isDigit

/-- A numeral begins with a minus or a digit. -/
theorem exists_chars_eq_cons {n : Numeral} (h : n.IsProper) :
    ∃ c cs, n.chars = c :: cs ∧ (c = '-' ∨ c.isDigit = true) := by
  obtain ⟨c, more, hwhole⟩ := List.exists_cons_of_ne_nil h.whole.ne_nil
  have hc : c.isDigit = true := h.whole.isDigit c (by simp [hwhole])
  rw [Numeral.chars_eq, hwhole]
  cases n.negative
  · exact ⟨c, _, rfl, .inr hc⟩
  · exact ⟨'-', _, rfl, .inl rfl⟩

/-- The text of a sound value begins as a value may. -/
theorem exists_valueChars_eq_cons {v : Value} (h : v.IsSound) :
    ∃ c cs, valueChars v = c :: cs ∧ startsValue c = true := by
  cases h with
  | null => simp [valueChars, scalarChars, startsValue]
  | bool truth => cases truth <;> simp [valueChars, scalarChars, startsValue]
  | number h =>
    obtain ⟨c, cs, hchars, hc⟩ := exists_chars_eq_cons h
    refine ⟨c, cs, by simp [valueChars, scalarChars, hchars], ?_⟩
    rcases hc with rfl | hc <;> simp_all [startsValue]
  | string text => simp [valueChars, scalarChars, stringChars, startsValue]
  | array h => simp [valueChars, startsValue]
  | object hnames h => simp [valueChars, startsValue]

/-- Where no gap is, none is skipped. -/
theorem skipGap_cons {c : Char} (h : isGap c = false) (cs : List Char) :
    skipGap (c :: cs) = c :: cs := by
  simp [skipGap, h]

/-- What begins a value is no gap. -/
theorem isGap_of_startsValue {c : Char} (h : startsValue c = true) : isGap c = false := by
  by_contra hgap
  simp only [isGap, Bool.not_eq_false, Bool.or_eq_true, beq_iff_eq] at hgap
  rcases hgap with ((rfl | rfl) | rfl) | rfl <;> revert h <;> decide

/-! ## What the reader does at each first character -/

section Reader

variable (fuel : Nat) {c : Char} (cs : List Char)

/-- What begins like a numeral is read as one. -/
theorem readValue?_numeral (h : c = '-' ∨ c.isDigit = true) :
    readValue? (fuel + 1) (c :: cs) =
      (readNumeral? (c :: cs)).map fun (numeral, rest) => (.number numeral, rest) := by
  have hgap : isGap c = false :=
    isGap_of_startsValue (by rcases h with rfl | h <;> simp_all [startsValue])
  have hother : ∀ d ∈ ['n', 't', 'f', '"', '[', '\x7b'], c ≠ d := by
    rintro d hd rfl
    rcases h with rfl | h <;> simp at hd
    rcases hd with rfl | rfl | rfl | rfl | rfl | rfl <;> cases h
  simp only [List.forall_mem_cons, ne_eq] at hother
  rw [readValue?, skipGap_cons hgap]
  cases hread : readNumeral? (c :: cs) <;> simp [hother, hread]

/-- Behind an opening bracket come items. -/
theorem readValue?_list (h : startsValue c = true) :
    readValue? (fuel + 1) ('[' :: c :: cs) =
      (readItems? fuel (c :: cs)).map fun (items, rest) => (.array items, rest) := by
  have hclose : c ≠ ']' := by rintro rfl; revert h; decide
  rw [readValue?, skipGap_cons (by decide)]
  cases hread : readItems? fuel (c :: cs) <;>
    simp [skipGap_cons (isGap_of_startsValue h), hclose, hread]

/-- Behind an opening brace come members. -/
theorem readValue?_object :
    readValue? (fuel + 1) ('\x7b' :: '"' :: cs) =
      (readMembers? fuel ('"' :: cs)).map fun (members, rest) => (.object members, rest) := by
  rw [readValue?, skipGap_cons (by decide)]
  cases hread : readMembers? fuel ('"' :: cs) <;> simp [skipGap_cons, isGap, hread]

end Reader

/-! ## Lists -/

/-- An item before a comma. -/
theorem readItems?_of_item {v : Value} (h : ReadsBack v) {fuel : Nat}
    (hfuel : 2 * (valueChars v).length ≤ fuel) {more rest : List Char} {items : List Value}
    (hmore : readItems? fuel more = some (items, rest)) :
    readItems? (fuel + 1) (valueChars v ++ ',' :: more) = some (v :: items, rest) := by
  have hread := h fuel (',' :: more) hfuel (stopsBefore_cons.2 rfl)
  simp [readItems?, hread, hmore, skipGap_cons, isGap]

/-- The last item, before the closing bracket. -/
theorem readItems?_of_lastItem {v : Value} (h : ReadsBack v) {fuel : Nat}
    (hfuel : 2 * (valueChars v).length ≤ fuel) (rest : List Char) :
    readItems? (fuel + 1) (valueChars v ++ ']' :: rest) = some ([v], rest) := by
  have hread := h fuel (']' :: rest) hfuel (stopsBefore_cons.2 rfl)
  simp [readItems?, hread, skipGap_cons, isGap]

/-- The items of a list are read back if each is. -/
theorem readItems?_itemsChars {v : Value} {items : List Value} (h : ∀ w ∈ v :: items, ReadsBack w)
    {fuel : Nat} (rest : List Char) (hfuel : 2 * (itemsChars true (v :: items)).length < fuel) :
    readItems? fuel (itemsChars true (v :: items) ++ rest) = some (v :: items, rest) := by
  obtain ⟨fuel, rfl⟩ : ∃ k, fuel = k + 1 := ⟨fuel - 1, by omega⟩
  have hback := h v (by simp)
  induction items generalizing v fuel with
  | nil =>
    simp only [itemsChars, if_true, List.nil_append, List.length_append] at hfuel
    have hread := readItems?_of_lastItem hback (by omega : _ ≤ fuel) rest
    simpa [itemsChars] using hread
  | cons w items ih =>
    have hitems : itemsChars true (v :: w :: items) =
        valueChars v ++ ',' :: itemsChars true (w :: items) := by
      simp [itemsChars]
    rw [hitems] at hfuel ⊢
    simp only [List.length_append, List.length_cons] at hfuel
    obtain ⟨fuel, rfl⟩ : ∃ k, fuel = k + 1 := ⟨fuel - 1, by omega⟩
    have hmore := @ih w (fun u hu => h u (List.mem_cons_of_mem v hu)) fuel (by omega) (h w (by simp))
    have hread := readItems?_of_item hback (by omega) hmore
    simpa using hread

/-! ## Objects -/

/-- The characters of a member with a sound name. -/
theorem memberChars_some (name : String) (v : Value) (rest : List Char) :
    memberChars (some name, v) ++ rest =
      '"' :: (name.toList.flatMap escape ++ '"' :: ':' :: (valueChars v ++ rest)) := by
  simp [memberChars, nameChars, stringChars]

/-- A member is longer than its value. -/
theorem length_memberChars (m : Option String × Value) :
    (valueChars m.2).length < (memberChars m).length := by
  obtain ⟨name, v⟩ := m
  simp only [memberChars, nameChars, stringChars, List.length_append, List.length_cons]
  omega

/-- A member before a comma. -/
theorem readMembers?_of_member (name : String) {v : Value} (h : ReadsBack v) {fuel : Nat}
    (hfuel : 2 * (valueChars v).length ≤ fuel) {more rest : List Char}
    {members : List (Option String × Value)} (hmore : readMembers? fuel more = some (members, rest)) :
    readMembers? (fuel + 1) (memberChars (some name, v) ++ ',' :: more) =
      some ((some name, v) :: members, rest) := by
  have hstring := readString?_escape name (':' :: (valueChars v ++ ',' :: more))
  have hread := h fuel (',' :: more) hfuel (stopsBefore_cons.2 rfl)
  rw [memberChars_some]
  simp [readMembers?, hstring, hread, hmore, skipGap_cons, isGap]

/-- The last member, before the closing brace. -/
theorem readMembers?_of_lastMember (name : String) {v : Value} (h : ReadsBack v) {fuel : Nat}
    (hfuel : 2 * (valueChars v).length ≤ fuel) (rest : List Char) :
    readMembers? (fuel + 1) (memberChars (some name, v) ++ '\x7d' :: rest) =
      some ([(some name, v)], rest) := by
  have hstring := readString?_escape name (':' :: (valueChars v ++ '\x7d' :: rest))
  have hread := h fuel ('\x7d' :: rest) hfuel (stopsBefore_cons.2 rfl)
  rw [memberChars_some]
  simp [readMembers?, hstring, hread, skipGap_cons, isGap]

/-- The members of an object are read back if the value of each is. -/
theorem readMembers?_membersChars {m : Option String × Value}
    {members : List (Option String × Value)} (hnames : ∀ n ∈ m :: members, n.1.isSome)
    (h : ∀ n ∈ m :: members, ReadsBack n.2) {fuel : Nat} (rest : List Char)
    (hfuel : 2 * (membersChars true (m :: members)).length < fuel) :
    readMembers? fuel (membersChars true (m :: members) ++ rest) = some (m :: members, rest) := by
  obtain ⟨fuel, rfl⟩ : ∃ k, fuel = k + 1 := ⟨fuel - 1, by omega⟩
  have hback := h m (by simp)
  have hlength := length_memberChars m
  obtain ⟨name, hname⟩ := Option.isSome_iff_exists.1 (hnames m (by simp))
  induction members generalizing m name fuel with
  | nil =>
    simp only [membersChars, if_true, List.nil_append, List.length_append] at hfuel
    have hread := readMembers?_of_lastMember name hback (by omega : _ ≤ fuel) rest
    rw [← hname] at hread
    simpa [membersChars] using hread
  | cons n members ih =>
    have hmembers : membersChars true (m :: n :: members) =
        memberChars m ++ ',' :: membersChars true (n :: members) := by
      simp [membersChars]
    rw [hmembers] at hfuel ⊢
    simp only [List.length_append, List.length_cons] at hfuel
    obtain ⟨fuel, rfl⟩ : ∃ k, fuel = k + 1 := ⟨fuel - 1, by omega⟩
    obtain ⟨next, hnext⟩ := Option.isSome_iff_exists.1 (hnames n (by simp))
    have hmore := @ih n (fun k hk => hnames k (List.mem_cons_of_mem m hk))
      (fun k hk => h k (List.mem_cons_of_mem m hk)) fuel (by omega) (h n (by simp))
      (length_memberChars n) next hnext
    have hread := readMembers?_of_member name hback (by omega) hmore
    rw [← hname] at hread
    simpa using hread

/-! ## Values -/

/-- The reader has fuel for what is written. -/
theorem exists_fuel {v : Value} (h : v.IsSound) {fuel : Nat}
    (hfuel : 2 * (valueChars v).length ≤ fuel) :
    ∃ k, fuel = k + 1 := by
  obtain ⟨c, cs, hchars, -⟩ := exists_valueChars_eq_cons h
  rw [hchars, List.length_cons] at hfuel
  exact ⟨fuel - 1, by omega⟩

/-- A sound value is read back, wherever it stands. -/
theorem readsBack_of_isSound {v : Value} (h : v.IsSound) : ReadsBack v := by
  intro fuel rest hfuel hrest
  obtain ⟨fuel, rfl⟩ := exists_fuel h hfuel
  -- The induction is on what makes the value sound: its items and members are sound themselves.
  induction h generalizing fuel rest with
  | null => simp [valueChars, scalarChars, readValue?, skipGap_cons, isGap]
  | bool truth => cases truth <;> simp [valueChars, scalarChars, readValue?, skipGap_cons, isGap]
  | number hproper =>
    have hread := readNumeral?_chars hproper hrest
    obtain ⟨c, cs, hchars, hc⟩ := exists_chars_eq_cons hproper
    simp only [valueChars, scalarChars, hchars, List.cons_append] at hread ⊢
    rw [readValue?_numeral fuel (cs ++ rest) hc, hread]
    rfl
  | string text =>
    have hread := readString?_escape text rest
    simp [valueChars, scalarChars, stringChars, readValue?, skipGap_cons, isGap, hread]
  | @array items hsound ih =>
    cases items with
    | nil => simp [valueChars, itemsChars, readValue?, skipGap_cons, isGap]
    | cons v items =>
      have hback : ∀ w ∈ v :: items, ReadsBack w := fun w hw fuel rest hfuel hrest => by
        obtain ⟨fuel, rfl⟩ := exists_fuel (hsound w hw) hfuel
        exact ih w hw rest hrest fuel hfuel
      simp only [valueChars, List.length_cons] at hfuel
      have hread := @readItems?_itemsChars v items hback fuel rest (by omega)
      obtain ⟨c, cs, hchars, hc⟩ := exists_valueChars_eq_cons (hsound v (by simp))
      have hitems : itemsChars true (v :: items) ++ rest =
          c :: (cs ++ (itemsChars false items ++ rest)) := by
        simp [itemsChars, hchars]
      rw [valueChars, List.cons_append, hitems, readValue?_list fuel _ hc, ← hitems, hread]
      rfl
  | @object members hnames hsound ih =>
    cases members with
    | nil => simp [valueChars, membersChars, readValue?, skipGap_cons, isGap]
    | cons m members =>
      have hback : ∀ n ∈ m :: members, ReadsBack n.2 := fun n hn fuel rest hfuel hrest => by
        obtain ⟨fuel, rfl⟩ := exists_fuel (hsound n hn) hfuel
        exact ih n hn rest hrest fuel hfuel
      simp only [valueChars, List.length_cons] at hfuel
      have hread := @readMembers?_membersChars m members hnames hback fuel rest (by omega)
      obtain ⟨cs, hmembers⟩ : ∃ cs, membersChars true (m :: members) ++ rest = '"' :: cs := by
        obtain ⟨name, v⟩ := m
        simp [membersChars, memberChars, nameChars, stringChars]
      rw [valueChars, List.cons_append, hmembers, readValue?_object fuel cs, ← hmembers, hread]
      rfl

/-- A sound value is read back from its text. -/
theorem readChars?_valueChars {v : Value} (h : v.IsSound) : readChars? (valueChars v) = some v := by
  have hread := readsBack_of_isSound h (2 * (valueChars v).length + 2) [] (by omega)
    (stopsBefore_nil _)
  rw [List.append_nil] at hread
  rw [readChars?, hread]
  rfl

/-- **What is written of a sound value is read as that value.** -/
theorem read?_compact {v : Value} (h : v.IsSound) : read? v.compact = some v := by
  rw [read?, Value.compact, String.toList_ofList, readChars?_valueChars h]

/-! ## Line ends -/

/-- Items that take no line end take none together. -/
theorem isOneLine_itemsChars {items : List Value} (h : ∀ v ∈ items, IsOneLine (valueChars v))
    (first : Bool) : IsOneLine (itemsChars first items) := by
  induction items generalizing first with
  | nil => simp [itemsChars, IsOneLine]
  | cons v items ih =>
    have hcomma : IsOneLine (if first then [] else [',']) := by cases first <;> simp [IsOneLine]
    rw [itemsChars]
    exact isOneLine_append.2 ⟨hcomma, isOneLine_append.2
      ⟨h v (by simp), ih (fun w hw => h w (List.mem_cons_of_mem v hw)) false⟩⟩

/-- Members are written on one line if their values are. -/
theorem isOneLine_membersChars {members : List (Option String × Value)}
    (h : ∀ m ∈ members, IsOneLine (valueChars m.2)) (first : Bool) :
    IsOneLine (membersChars first members) := by
  induction members generalizing first with
  | nil => simp [membersChars, IsOneLine]
  | cons m members ih =>
    have hcomma : IsOneLine (if first then [] else [',']) := by cases first <;> simp [IsOneLine]
    have hmember : IsOneLine (memberChars m) := by
      obtain ⟨name, v⟩ := m
      rw [memberChars, nameChars]
      exact isOneLine_append.2 ⟨isOneLine_append.2 ⟨isOneLine_stringChars _, by simp [IsOneLine]⟩,
        h (name, v) (by simp)⟩
    rw [membersChars]
    exact isOneLine_append.2 ⟨hcomma, isOneLine_append.2
      ⟨hmember, ih (fun n hn => h n (List.mem_cons_of_mem m hn)) false⟩⟩

/-- **A value on one line is on one line.** -/
theorem isOneLine_valueChars {v : Value} (h : v.IsSound) : IsOneLine (valueChars v) := by
  induction h with
  | null => simp [valueChars, scalarChars, IsOneLine]
  | bool truth => cases truth <;> simp [valueChars, scalarChars, IsOneLine]
  | number h => simpa only [valueChars, scalarChars] using isOneLine_chars h
  | string text => simpa only [valueChars, scalarChars] using isOneLine_stringChars text
  | array _ ih =>
    rw [valueChars]
    exact isOneLine_cons.2 ⟨by decide, isOneLine_itemsChars ih true⟩
  | object _ _ ih =>
    rw [valueChars]
    exact isOneLine_cons.2 ⟨by decide, isOneLine_membersChars ih true⟩

end CollisionWatch.Json
