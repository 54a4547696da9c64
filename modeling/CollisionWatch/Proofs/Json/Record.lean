import CollisionWatch.Json.Number
import CollisionWatch.Json.Record
import CollisionWatch.Proofs.Json.Text

/-!
# Records written and read back

An object gives every field the value it was written with (`fields?_ofMembers`), a list gives its
items (`listOf?_map`), a natural number of thirty-two bits is read as itself (`word?_ofNat`).  All
that floats, numbers and members are written as is sound.
-/

namespace CollisionWatch.Json

open Decimal

/-! ## Soundness of what is written -/

/-- An object of sound members is sound. -/
theorem Value.isSound_ofMembers {members : List (String × Value)} (h : ∀ m ∈ members, m.2.IsSound) :
    (Value.ofMembers members).IsSound := by
  refine .object (fun m hm => ?_) (fun m hm => ?_)
  · obtain ⟨n, -, rfl⟩ := List.mem_map.1 hm
    rfl
  · obtain ⟨n, hn, rfl⟩ := List.mem_map.1 hm
    exact h n hn

/-- The value of a binary number is sound, whatever the style of its numeral. -/
theorem isSound_ofBinary (style : Style) (x : Binary) : (ofBinary style x).IsSound := by
  unfold ofBinary
  split
  · rename_i hnumeral
    exact .number (Style.isProper_numeral hnumeral)
  · exact .null

/-- The value of a double is sound. -/
theorem Value.isSound_ofDouble (x : Float) : (Value.ofDouble x).IsSound := isSound_ofBinary _ _

/-- The value of a single is sound. -/
theorem Value.isSound_ofSingle (x : Float32) : (Value.ofSingle x).IsSound := isSound_ofBinary _ _

/-- The value of a natural number is sound. -/
theorem Value.isSound_ofNat (n : Nat) : (Value.ofNat n).IsSound := .number (Numeral.isProper_ofNat n)

/-- What may be missing has a sound value if it has one when it is there. -/
theorem Value.isSound_ofOption {α : Type} {write : α → Value} (h : ∀ a, (write a).IsSound)
    (a : Option α) : (Value.ofOption write a).IsSound := by
  cases a with
  | none => exact .null
  | some a => exact h a

/-! ## Fields -/

namespace Value

/-- Each name that stands once gives its value. -/
theorem field?_of_mem {members : List (String × Value)} (h : (members.map Prod.fst).Nodup)
    {name : String} {v : Value} (hmem : (name, v) ∈ members) :
    field? (members.map fun (name, value) => (some name, value)) name = some (some v) := by
  have hfilter : (members.map fun (name, value) => (some name, value)).filter
      (fun m => m.1 == some name) = [(some name, v)] := by
    induction members with
    | nil => cases hmem
    | cons m members ih =>
      obtain ⟨hfirst, hrest⟩ := List.nodup_cons.1 h
      rcases List.mem_cons.1 hmem with rfl | hmem
      · have hother : members.filter (fun m => m.1 == name) = [] :=
          List.filter_eq_nil_iff.2 fun n hn heq =>
            hfirst (List.mem_map.2 ⟨n, hn, by simpa using heq⟩)
        simp [List.filter_map, Function.comp_def, hother]
      · have hne : m.1 ≠ name := by
          rintro rfl
          exact hfirst (List.mem_map.2 ⟨_, hmem, rfl⟩)
        simpa [hne] using ih hrest hmem
  rw [field?, hfilter]

/-- If every item has an answer, the answers are the answer to the list. -/
theorem mapM_eq_some_map {α β : Type} {f : α → Option β} {g : α → β} {l : List α}
    (h : ∀ a ∈ l, f a = some (g a)) : l.mapM f = some (l.map g) := by
  induction l with
  | nil => rfl
  | cons a l ih =>
    rw [List.mapM_cons, h a (by simp), ih fun b hb => h b (List.mem_cons_of_mem a hb)]
    rfl

/-- If the list has an answer, every item has one. -/
theorem isSome_of_mapM_eq_some {α β : Type} {f : α → Option β} {l : List α} {l' : List β}
    (h : l.mapM f = some l') : ∀ a ∈ l, (f a).isSome = true := by
  induction l generalizing l' with
  | nil => simp
  | cons a l ih =>
    rw [List.mapM_cons] at h
    obtain ⟨b, hb, hrest⟩ := Option.bind_eq_some_iff.1 h
    obtain ⟨bs, hbs, -⟩ := Option.bind_eq_some_iff.1 hrest
    simpa [hb] using ih hbs

/-- **Every field of a record has the value it was written with.** -/
theorem fields?_ofMembers {members : List (String × Value)} {names : List String}
    (h : names.Nodup) (hnames : members.map Prod.fst = names) :
    (Value.ofMembers members).fields? names = some (members.map fun m => some m.2) := by
  subst hnames
  have hsound : (members.map fun (name, value) => (some name, value)).all (·.1.isSome) = true := by
    simp
  rw [ofMembers, fields?, if_pos hsound, List.mapM_map]
  exact mapM_eq_some_map fun m hm => field?_of_mem h hm

/-- A list of items that are read back is read back. -/
theorem listOf?_map {α : Type} {write : α → Value} {read : Value → Option α} {items : List α}
    (h : ∀ a ∈ items, read (write a) = some a) :
    (Value.array (items.map write)).listOf? read = some items := by
  have hread : items.mapM (read ∘ write) = some (items.map id) := mapM_eq_some_map h
  rw [listOf?, List.mapM_map, hread, List.map_id]

/-- What may be missing is read back, as long as nothing is written as if it were missing. -/
theorem optional?_ofOption {α : Type} {write : α → Value} {read : Value → Option α} {a : Option α}
    (hnull : ∀ b ∈ a, write b ≠ .null) (h : ∀ b ∈ a, read (write b) = some b) :
    optional? read (some (Value.ofOption write a)) = some a := by
  cases a with
  | none => rfl
  | some a =>
    have hread := h a rfl
    rw [ofOption, optional?, hread]
    · rfl
    · exact hnull a rfl

end Value

/-! ## Words -/

/-- More digits make no smaller number. -/
theorem le_foldl_digits (digits : List Char) (n : Nat) :
    n ≤ digits.foldl (fun n c => 10 * n + digitValue c) n := by
  induction digits generalizing n with
  | nil => rfl
  | cons c digits ih => exact le_trans (by omega) (ih (10 * n + digitValue c))

/-- Digits are appended to a word as to a number, if all of it fits into the word. -/
theorem appendDigits_eq {digits : List Char} {n : Nat}
    (h : digits.foldl (fun n c => 10 * n + digitValue c) n < UInt64.size) :
    appendDigits n digits = (digits.foldl (fun n c => 10 * n + digitValue c) n, []) := by
  induction digits generalizing n with
  | nil => rfl
  | cons c digits ih =>
    have hnext := (le_foldl_digits digits (10 * n + digitValue c)).trans_lt h
    rw [appendDigits, if_pos hnext]
    exact ih h

/-- A number that fits into a word is read back as that word. -/
theorem numberOf?_ofNat {n : Nat} (h : n < UInt64.size) :
    numberOf? (.ofNat n) = some (.natural n.toUInt64) := by
  have hdigits : appendDigits 0 (digitsOfNat n) = (n, []) := by
    have hvalue := natOfDigits_digitsOfNat n
    rw [natOfDigits] at hvalue
    rw [appendDigits_eq (by rwa [hvalue]), hvalue]
  simp [numberOf?, Numeral.ofNat, hdigits, Numeral.isWhole]

/-- **A word is read as itself.** -/
theorem Value.word?_ofNat (w : UInt32) : (Value.ofNat w.toNat).word? = some w := by
  have hlt : w.toNat < UInt32.size := w.toNat_lt
  have h64 : w.toNat < UInt64.size := hlt.trans (by decide)
  have hword : w.toNat.toUInt64.toNat = w.toNat := Nat.mod_eq_of_lt h64
  have hback : w.toNat.toUInt64.toUInt32 = w := UInt32.toNat_inj.1 <| by
    rw [UInt64.toNat_toUInt32, hword]
    exact Nat.mod_eq_of_lt hlt
  rw [Value.ofNat, Value.word?, numberOf?_ofNat h64, Option.bind_some, Number.toWord?, hword,
    if_pos hlt, hback]

end CollisionWatch.Json
