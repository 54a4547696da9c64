import CollisionWatch.Toml.Printer
import Mathlib

/-!
# Strings of a TOML document, written and read back

A string is read back from any of the forms in which it is written, whatever its characters, unless
one more of its closing quotes follows (`readString?_stringChars`).  An escape spells its character
(`EscapeState.Spells`); between tripled quotes up to two quotes in a row stand for themselves, and
the reader, which counts them, gives them back with whatever comes next.
-/

namespace CollisionWatch.Toml

open Json (hexValue?)

/-! ## Escapes -/

/-- From a state inside an escape, characters spell one character with their last. -/
inductive EscapeState.Spells : EscapeState → List Char → Char → Prop
  /-- The last character of the escape. -/
  | last {state : EscapeState} {c d : Char} (h : state.step c = some (.inr d)) :
    Spells state [c] d
  /-- A character before the last. -/
  | cons {state next : EscapeState} {c d : Char} {cs : List Char} (h : state.step c = some (.inl next))
    (hcs : Spells next cs d) : Spells state (c :: cs) d

/-- A reader of a short string that is within an escape reads the character that the escape spells.
-/
theorem EscapeState.Spells.readBasic? {state : EscapeState} {cs : List Char} {d : Char}
    (h : state.Spells cs d) (rest : List Char) :
    readBasic? (some state) (cs ++ rest) = prepend [d] (readBasic? none rest) := by
  induction h with
  | last h => simp [Toml.readBasic?, h]
  | cons h _ ih => simpa [Toml.readBasic?, h] using ih

/-- What a step inside an escape makes of a string over several lines. -/
def afterEscape : EscapeState ⊕ Char → List Char × LongState
  | .inl state => ([], .escape state)
  | .inr spelled => ([spelled], .plain)

/-- Right after a backslash a character of an escape is not the end of a line. -/
theorem backslashStep_eq {c : Char} {next : EscapeState ⊕ Char}
    (h : EscapeState.letter.step c = some next) : backslashStep c = some (afterEscape next) := by
  have hother : c ≠ ' ' ∧ c ≠ '\t' ∧ c ≠ '\n' ∧ c ≠ '\r' := by
    refine ⟨?_, ?_, ?_, ?_⟩ <;> (rintro rfl; cases h)
  obtain ⟨hspace, htab, hfeed, hreturn⟩ := hother
  have hblank : isBlank c = false := by simp [isBlank, hspace, htab]
  simp only [backslashStep, hblank, hfeed, hreturn, h, if_false, Bool.false_eq_true]
  cases next <;> rfl

/-- Inside an escape a string over several lines goes on like any other. -/
theorem step_escape {basic : Bool} {state : EscapeState} {c : Char} {next : EscapeState ⊕ Char}
    (h : state.step c = some next) :
    LongState.step basic (.escape state) c = some (afterEscape next) := by
  cases state with
  | letter => exact backslashStep_eq h
  | digits more value =>
    simp only [LongState.step, h]
    cases next <;> rfl

/-- Nothing in front changes nothing. -/
theorem prepend_nil (read : Option (List Char × List Char)) : prepend [] read = read := by
  cases read <;> rfl

/-- Texts are put in front one after the other. -/
theorem prepend_prepend (a b : List Char) (read : Option (List Char × List Char)) :
    prepend a (prepend b read) = prepend (a ++ b) read := by
  cases read <;> simp [prepend]

/-- A reader of a long string that is within an escape reads the same character. -/
theorem EscapeState.Spells.readLong? {state : EscapeState} {cs : List Char} {d : Char}
    (h : state.Spells cs d) (rest : List Char) :
    readLong? true (.escape state) (cs ++ rest) = prepend [d] (readLong? true .plain rest) := by
  induction h with
  | last h => simp [Toml.readLong?, step_escape h, afterEscape]
  | cons h _ ih => simpa [Toml.readLong?, step_escape h, afterEscape, prepend_nil] using ih

/-- A hexadecimal digit inside an escape. -/
theorem step_digits {d : Nat} (hd : d < 16) (more value : Nat) :
    (EscapeState.digits (more + 2) value).step (Nat.digitChar d).toUpper =
      some (.inl (.digits (more + 1) (16 * value + d))) := by
  have hhex : ∀ d < 16, hexValue? (Nat.digitChar d).toUpper = some d := by decide
  simp [EscapeState.step, hhex d hd]

/-- The last hexadecimal digit of an escape. -/
theorem step_lastDigit {d value : Nat} {c : Char} (hd : d < 16)
    (hc : charOf? (16 * value + d) = some c) :
    (EscapeState.digits 1 value).step (Nat.digitChar d).toUpper = some (.inr c) := by
  have hhex : ∀ d < 16, hexValue? (Nat.digitChar d).toUpper = some d := by decide
  simp [EscapeState.step, hhex d hd, hc]

/-- A control character is spelled by its code point. -/
theorem spells_controlEscape {c : Char} (h : isControl c = true) :
    ∃ letters, controlEscape c = '\\' :: letters ∧ EscapeState.letter.Spells letters c := by
  have hlt : c.toNat < 128 := by
    simp only [isControl, Bool.or_eq_true, Bool.and_eq_true, decide_eq_true_eq, beq_iff_eq] at h
    omega
  have hchar : charOf? c.toNat = some c := by
    rw [charOf?, if_pos (by simp [Nat.isValidChar]; omega), Char.ofNat_toNat]
  have hfirst : c.toNat / 4096 < 16 := by omega
  have hsecond : c.toNat / 256 % 16 < 16 := by omega
  have hthird : c.toNat / 16 % 16 < 16 := by omega
  have hlast : c.toNat % 16 < 16 := by omega
  refine ⟨_, rfl, .cons rfl (.cons (step_digits hfirst 2 0) (.cons (step_digits hsecond 1 _)
    (.cons (step_digits hthird 0 _) (.last (step_lastDigit hlast ?_)))))⟩
  rw [← hchar]
  congr 1
  omega

/-- What a character other than a quote is written as: itself, or an escape that spells it. -/
theorem escapeChar_cases (long : Bool) {c : Char} (hquote : c ≠ '"') :
    (escapeChar long c = [c] ∧ (isPlain c = true ∨ long = true ∧ c = '\n')) ∨
      ∃ letters, escapeChar long c = '\\' :: letters ∧ EscapeState.letter.Spells letters c := by
  unfold escapeChar
  split_ifs with hback htab hfeed hlong hform hreturn hbackslash hcontrol
  · exact .inr ⟨['b'], rfl, .last (by rw [hback]; rfl)⟩
  · exact .inr ⟨['t'], rfl, .last (by rw [htab]; rfl)⟩
  · exact .inl ⟨by rw [hfeed], .inr ⟨hlong, hfeed⟩⟩
  · exact .inr ⟨['n'], rfl, .last (by rw [hfeed]; rfl)⟩
  · exact .inr ⟨['f'], rfl, .last (by rw [hform]; rfl)⟩
  · exact .inr ⟨['r'], rfl, .last (by rw [hreturn]; rfl)⟩
  · exact .inr ⟨['\\'], rfl, .last (by rw [hbackslash]; rfl)⟩
  · exact .inr (spells_controlEscape hcontrol)
  · refine .inl ⟨rfl, .inl ?_⟩
    simp [isControl, htab, hfeed] at hcontrol
    simp [isPlain, isText, hquote, hbackslash, hcontrol]

/-- An escaped quote is spelled by a quote. -/
theorem spells_quote : EscapeState.letter.Spells ['"'] '"' := .last rfl

/-! ## Strings on one line -/

/-- An escape in a short string is read as its character. -/
theorem readBasic?_escape {letters : List Char} {c : Char} (h : EscapeState.letter.Spells letters c)
    (rest : List Char) :
    readBasic? none ('\\' :: (letters ++ rest)) = prepend [c] (readBasic? none rest) := by
  rw [← h.readBasic? rest]
  simp [readBasic?]

/-- A character that is no quote is read back from what is written for it in a short string. -/
theorem readBasic?_escapeChar {c : Char} (hquote : c ≠ '"') (rest : List Char) :
    readBasic? none (escapeChar false c ++ rest) = prepend [c] (readBasic? none rest) := by
  rcases escapeChar_cases false hquote with ⟨hself, hplain⟩ | ⟨letters, hletters, hspells⟩
  · have hplain : isPlain c = true := hplain.resolve_right (by simp)
    have hbackslash : c ≠ '\\' := by rintro rfl; cases hplain
    rw [hself]
    simp [readBasic?, hquote, hbackslash, hplain]
  · rw [hletters, List.cons_append, readBasic?_escape hspells]

/-- Between double quotes a string is read back. -/
theorem readBasic?_escapeBasic (run : Nat) (text rest : List Char) :
    readBasic? none (escapeBasic false run text ++ '"' :: rest) = some (text, rest) := by
  induction text generalizing run with
  | nil => simp [escapeBasic, readBasic?]
  | cons c text ih =>
    by_cases hquote : c = '"'
    · have hread := readBasic?_escape spells_quote (escapeBasic false 0 text ++ '"' :: rest)
      rw [ih] at hread
      simpa [hquote, escapeBasic, prepend] using hread
    · rw [escapeBasic, if_neg hquote, List.append_assoc, readBasic?_escapeChar hquote, ih]
      rfl

/-- Between single quotes a string without them is read back. -/
theorem readLiteral?_append {text : List Char} (h : ∀ c ∈ text, isLiteral c = true)
    (rest : List Char) : readLiteral? (text ++ '\'' :: rest) = some (text, rest) := by
  induction text with
  | nil => simp [readLiteral?]
  | cons c text ih =>
    have hc := h c (by simp)
    have hquote : c ≠ '\'' := by rintro rfl; cases hc
    simp [readLiteral?, hquote, hc, ih fun d hd => h d (List.mem_cons_of_mem c hd), prepend]

/-! ## Strings over several lines -/

/-- The quote of a form. -/
def quoteOf (basic : Bool) : Char := if basic then '"' else '\''

/-- Where the reader stands after a run of quotes. -/
def LongState.afterRun : Nat → LongState
  | 0 => .plain
  | run + 1 => .quotes (run + 1)

/-- One quote more is counted, up to five. -/
theorem readLong?_quote (basic : Bool) {run : Nat} (hrun : run < 5) (rest : List Char) :
    readLong? basic (.afterRun run) (quoteOf basic :: rest) =
      readLong? basic (.afterRun (run + 1)) rest := by
  cases run with
  | zero =>
    cases basic <;>
      simp [LongState.afterRun, readLong?, LongState.step, plainStep, quoteOf, prepend_nil]
  | succ run => cases basic <;> simp [LongState.afterRun, readLong?, quoteOf, hrun]

/-- A character that is no quote ends a run of at most two quotes; the quotes stand for themselves. -/
theorem readLong?_plainStep {basic : Bool} {c : Char} {spelled : List Char} {next : LongState}
    (hquote : c ≠ quoteOf basic) (h : plainStep basic c = some (spelled, next)) {run : Nat}
    (hrun : run ≤ 2) (rest : List Char) :
    readLong? basic (.afterRun run) (c :: rest) =
      prepend (List.replicate run (quoteOf basic) ++ spelled) (readLong? basic next rest) := by
  cases run with
  | zero => simp [LongState.afterRun, readLong?, LongState.step, h]
  | succ run =>
    have hnot : ¬ 3 ≤ run + 1 := by omega
    rw [quoteOf] at hquote
    simp only [LongState.afterRun, readLong?, LongState.step, h, hquote, hnot, if_false]
    rfl

/-- Text is no line end. -/
theorem ne_of_isText {c : Char} (h : isText c = true) : c ≠ '\n' ∧ c ≠ '\r' := by
  constructor <;> (rintro rfl; cases h)

/-- A plain character between double quotes stands for itself. -/
theorem plainStep_of_isPlain {c : Char} (h : isPlain c = true) :
    plainStep true c = some ([c], .plain) := by
  simp only [isPlain, Bool.and_eq_true, bne_iff_ne] at h
  obtain ⟨hfeed, hreturn⟩ := ne_of_isText h.1.1
  simp [plainStep, isPlain, h, hfeed, hreturn]

/-- A literal one stands for itself between single quotes. -/
theorem plainStep_of_isLiteral {c : Char} (h : isLiteral c = true) :
    plainStep false c = some ([c], .plain) := by
  simp only [isLiteral, Bool.and_eq_true, bne_iff_ne] at h
  obtain ⟨hfeed, hreturn⟩ := ne_of_isText h.1
  simp [plainStep, isLiteral, h, hfeed, hreturn]

/-- Three more quotes close the string; the ones before stand for themselves. -/
theorem readLong?_close (basic : Bool) {run : Nat} (hrun : run ≤ 2) {rest : List Char}
    (hrest : ∀ c ∈ rest.head?, c ≠ quoteOf basic) :
    readLong? basic (.afterRun run)
        (quoteOf basic :: quoteOf basic :: quoteOf basic :: rest) =
      some (List.replicate run (quoteOf basic), rest) := by
  rw [readLong?_quote basic (by omega), readLong?_quote basic (by omega),
    readLong?_quote basic (by omega)]
  cases rest with
  | nil => simp [LongState.afterRun, readLong?, quoteOf]
  | cons c rest =>
    have hc : c ≠ quoteOf basic := hrest c rfl
    rw [quoteOf] at hc
    simp [LongState.afterRun, readLong?, hc, quoteOf]

/-- In a long string it is read back too, along with the quotes in front of it. -/
theorem readLong?_escapeChar {c : Char} (hquote : c ≠ '"') {run : Nat} (hrun : run ≤ 2)
    (rest : List Char) :
    readLong? true (.afterRun run) (escapeChar true c ++ rest) =
      prepend (List.replicate run '"' ++ [c]) (readLong? true .plain rest) := by
  rcases escapeChar_cases true hquote with ⟨hself, hplain⟩ | ⟨letters, hletters, hspells⟩
  · have hstep : plainStep true c = some ([c], .plain) := by
      rcases hplain with hplain | ⟨-, rfl⟩
      · exact plainStep_of_isPlain hplain
      · rfl
    rw [hself, List.singleton_append, readLong?_plainStep hquote hstep hrun]
    rfl
  · rw [hletters, List.cons_append,
      @readLong?_plainStep true '\\' [] (.escape .letter) (by decide) rfl run hrun,
      hspells.readLong?, prepend_prepend]
    simp [quoteOf]

/-- Between tripled double quotes a string is read back. -/
theorem readLong?_escapeBasic {run : Nat} (hrun : run ≤ 2) (text : List Char) {rest : List Char}
    (hrest : ∀ c ∈ rest.head?, c ≠ '"') :
    readLong? true (.afterRun run) (escapeBasic true run text ++ '"' :: '"' :: '"' :: rest) =
      some (List.replicate run '"' ++ text, rest) := by
  induction text generalizing run with
  | nil =>
    rw [List.append_nil]
    exact readLong?_close true hrun hrest
  | cons c text ih =>
    have hplain := @ih 0 (by omega)
    rw [LongState.afterRun, List.replicate_zero, List.nil_append] at hplain
    by_cases hquote : c = '"'
    · subst hquote
      rw [escapeBasic, if_pos rfl, if_pos rfl]
      split_ifs with hmore
      · -- a third quote in a row is escaped
        have hread := spells_quote.readLong? (escapeBasic true 0 text ++ '"' :: '"' :: '"' :: rest)
        rw [hplain] at hread
        rw [List.cons_append, @readLong?_plainStep true '\\' [] (.escape .letter) (by decide) rfl
          run hrun]
        simp only [List.cons_append, List.nil_append] at hread ⊢
        rw [hread]
        simp [prepend, quoteOf]
      · have hread := readLong?_quote true (by omega : run < 5)
          (escapeBasic true (run + 1) text ++ '"' :: '"' :: '"' :: rest)
        rw [@ih (run + 1) (by omega)] at hread
        simpa [List.replicate_succ', quoteOf] using hread
    · rw [escapeBasic, if_neg hquote, List.append_assoc, readLong?_escapeChar hquote hrun, hplain]
      simp [prepend]

/-- A run of quotes that has begun is among the runs. -/
theorem le_longestRun (quote : Char) (run : Nat) (text : List Char) :
    run ≤ longestRun quote run text := by
  induction text generalizing run with
  | nil => exact le_refl run
  | cons c text ih =>
    rw [longestRun]
    split_ifs
    · exact (Nat.le_succ run).trans (ih (run + 1))
    · exact le_max_left _ _

/-- Between tripled single quotes a string is read back that has at most two of them in a row and
needs no escapes. -/
theorem readLong?_literal {run : Nat} (text : List Char) {rest : List Char}
    (hrun : longestRun '\'' run text ≤ 2)
    (htext : ∀ c ∈ text, c = '\'' ∨ c = '\n' ∨ isLiteral c = true)
    (hrest : ∀ c ∈ rest.head?, c ≠ '\'') :
    readLong? false (.afterRun run) (text ++ '\'' :: '\'' :: '\'' :: rest) =
      some (List.replicate run '\'' ++ text, rest) := by
  have hle := (le_longestRun '\'' run text).trans hrun
  -- The run counts the quotes in a row that were read and may still belong to the end.
  induction text generalizing run with
  | nil =>
    rw [List.append_nil]
    exact readLong?_close false hle hrest
  | cons c text ih =>
    have hmore : ∀ d ∈ text, d = '\'' ∨ d = '\n' ∨ isLiteral d = true :=
      fun d hd => htext d (List.mem_cons_of_mem c hd)
    by_cases hquote : c = '\''
    · subst hquote
      rw [longestRun, if_pos rfl] at hrun
      have hread := readLong?_quote false (by omega : run < 5)
        (text ++ '\'' :: '\'' :: '\'' :: rest)
      rw [ih hrun hmore ((le_longestRun _ _ _).trans hrun)] at hread
      simpa [List.replicate_succ', quoteOf] using hread
    · rw [longestRun, if_neg hquote] at hrun
      have hstep : plainStep false c = some ([c], .plain) := by
        rcases (htext c (by simp)).resolve_left hquote with rfl | hliteral
        · rfl
        · exact plainStep_of_isLiteral hliteral
      have hread := @ih 0 ((le_max_right _ _).trans hrun) hmore (by omega)
      rw [List.cons_append, readLong?_plainStep hquote hstep hle]
      rw [LongState.afterRun] at hread
      rw [hread]
      simp [prepend, quoteOf]

/-! ## Any form -/

/-- What a character other than a quote is written as starts with no quote and, unless it is a line
feed, with no line end. -/
theorem head?_escapeChar (long : Bool) {c : Char} (hquote : c ≠ '"') :
    ∃ d more, escapeChar long c = d :: more ∧ d ≠ '"' ∧ (c ≠ '\n' → d ≠ '\n' ∧ d ≠ '\r') := by
  rcases escapeChar_cases long hquote with ⟨hself, hplain⟩ | ⟨letters, hletters, -⟩
  · refine ⟨c, [], hself, hquote, fun hfeed => ?_⟩
    have hplain := hplain.resolve_right fun h => hfeed h.2
    simp only [isPlain, Bool.and_eq_true] at hplain
    exact ne_of_isText hplain.1.1
  · exact ⟨'\\', letters, hletters, by decide, fun _ => ⟨by decide, by decide⟩⟩

/-- A text is read back from a short string with escapes. -/
theorem readString?_shortBasic (text : List Char) {rest : List Char}
    (hrest : ∀ c ∈ rest.head?, c ≠ '"') :
    readString? ('"' :: (escapeBasic false 0 text ++ '"' :: rest)) =
      some (String.ofList text, rest) := by
  have hread := readBasic?_escapeBasic 0 text rest
  -- two quotes in a row are an empty string, and no third one follows them
  have hshort : ∀ more, escapeBasic false 0 text ++ '"' :: rest ≠ '"' :: '"' :: more := by
    intro more heq
    cases text with
    | nil =>
      simp only [escapeBasic, List.nil_append, List.cons.injEq, true_and] at heq
      exact hrest '"' (by simp [heq]) rfl
    | cons c text =>
      by_cases hquote : c = '"'
      · simp [escapeBasic, hquote] at heq
      · obtain ⟨d, tail, hd, hne, -⟩ := head?_escapeChar false hquote
        rw [escapeBasic, if_neg hquote, hd] at heq
        exact hne (List.cons.inj heq).1
  generalize escapeBasic false 0 text ++ '"' :: rest = body at hread hshort ⊢
  simp [readString?, hread]

/-- A text of literal characters is read back from a short string without escapes. -/
theorem readString?_shortLiteral {text : List Char} (hne : text ≠ [])
    (h : ∀ c ∈ text, isLiteral c = true) (rest : List Char) :
    readString? ('\'' :: (text ++ '\'' :: rest)) = some (String.ofList text, rest) := by
  have hread := readLiteral?_append h rest
  obtain ⟨c, more, rfl⟩ := List.exists_cons_of_ne_nil hne
  have hquote : c ≠ '\'' := by
    rintro rfl
    cases h '\'' (by simp)
  rw [List.cons_append] at hread ⊢
  simp [readString?, hread, hquote]

/-- Only the end of a line is dropped at the start of a long string. -/
theorem dropLineEnd_cons {c : Char} (hfeed : c ≠ '\n') (hreturn : c ≠ '\r') (rest : List Char) :
    dropLineEnd (c :: rest) = c :: rest := by
  simp [dropLineEnd, readLineEnd?, hfeed, hreturn]

/-- The line feed before a string over several lines. -/
def startOf (text : List Char) : List Char := if text.contains '\n' then ['\n'] else []

/-- The line feed before a string is dropped, and nothing else is. -/
theorem dropLineEnd_startOf {text body : List Char}
    (h : '\n' ∉ text → ∃ c more, body = c :: more ∧ c ≠ '\n' ∧ c ≠ '\r') :
    dropLineEnd (startOf text ++ body) = body := by
  unfold startOf
  split_ifs with hfeed
  · rfl
  · obtain ⟨c, more, rfl, hc, hreturn⟩ := h (by simpa using hfeed)
    exact dropLineEnd_cons hc hreturn more

/-- A text is read back from a long string with escapes. -/
theorem readString?_longBasic (text : List Char) {rest : List Char}
    (hrest : ∀ c ∈ rest.head?, c ≠ '"') :
    readString? ('"' :: '"' :: '"' :: (startOf text ++
        (escapeBasic true 0 text ++ '"' :: '"' :: '"' :: rest))) =
      some (String.ofList text, rest) := by
  have hread := @readLong?_escapeBasic 0 (by omega) text rest hrest
  have hdrop : dropLineEnd (startOf text ++ (escapeBasic true 0 text ++ '"' :: '"' :: '"' :: rest)) =
      escapeBasic true 0 text ++ '"' :: '"' :: '"' :: rest := by
    refine dropLineEnd_startOf fun hfeed => ?_
    cases text with
    | nil => exact ⟨'"', _, rfl, by decide, by decide⟩
    | cons c text =>
      by_cases hquote : c = '"'
      · simp [escapeBasic, hquote]
      · obtain ⟨d, tail, hd, -, hne⟩ := head?_escapeChar true hquote
        rw [escapeBasic, if_neg hquote, hd]
        exact ⟨d, _, rfl, hne (by rintro rfl; simp at hfeed)⟩
  simp only [LongState.afterRun, List.replicate_zero, List.nil_append] at hread
  simp [readString?, hdrop, hread]

/-- A text of literal characters and lines is read back from a long string without escapes, if it
has no run of three quotes. -/
theorem readString?_longLiteral {text : List Char} (hrun : longestRun '\'' 0 text ≤ 2)
    (htext : ∀ c ∈ text, c = '\'' ∨ c = '\n' ∨ isLiteral c = true) {rest : List Char}
    (hrest : ∀ c ∈ rest.head?, c ≠ '\'') :
    readString? ('\'' :: '\'' :: '\'' :: (startOf text ++
        (text ++ '\'' :: '\'' :: '\'' :: rest))) = some (String.ofList text, rest) := by
  have hread := readLong?_literal text hrun htext hrest
  have hdrop : dropLineEnd (startOf text ++ (text ++ '\'' :: '\'' :: '\'' :: rest)) =
      text ++ '\'' :: '\'' :: '\'' :: rest := by
    refine dropLineEnd_startOf fun hfeed => ?_
    cases text with
    | nil => exact ⟨'\'', _, rfl, by decide, by decide⟩
    | cons c text =>
      refine ⟨c, _, rfl, by rintro rfl; simp at hfeed, ?_⟩
      rintro rfl
      rcases htext '\r' (by simp) with h | h | h <;> cases h
  simp only [LongState.afterRun, List.replicate_zero, List.nil_append] at hread
  simp [readString?, hdrop, hread]

/-- Without control characters everything stands for itself but quotes and line feeds. -/
theorem isLiteral_of_not_isControl {c : Char} (h : isControl c = false) (hquote : c ≠ '\'')
    (hfeed : c ≠ '\n') : isLiteral c = true := by
  simp [isControl, hfeed] at h
  simp only [isLiteral, isText, Bool.and_eq_true, Bool.or_eq_true, beq_iff_eq, bne_iff_ne,
    decide_eq_true_eq]
  refine ⟨?_, hquote⟩
  by_cases htab : c = '\t'
  · exact .inl htab
  · exact .inr ⟨by_contra fun hlow => htab (h.1 (by omega)), h.2⟩

/-- Where the longest run is empty there is no quote. -/
theorem not_mem_of_longestRun_eq_zero {quote : Char} {text : List Char}
    (h : longestRun quote 0 text = 0) : quote ∉ text := by
  induction text with
  | nil => simp
  | cons c text ih =>
    rw [longestRun] at h
    split_ifs at h with hquote
    · have hpos := le_longestRun quote (0 + 1) text
      omega
    · have hrest : longestRun quote 0 text = 0 := by omega
      exact List.not_mem_cons_of_ne_of_not_mem (Ne.symm hquote) (ih hrest)

/-- The forms without escapes are for strings that need none. -/
theorem formFor_cases (d : Demands) :
    formFor d = ⟨true, false⟩ ∨ formFor d = ⟨true, true⟩ ∨
      (formFor d = ⟨false, false⟩ ∧ d.control = false ∧ d.singleQuotes = 0 ∧ d.lineFeed = false ∧
        ¬ (d.backslash = false ∧ d.doubleQuotes = 0)) ∨
      (formFor d = ⟨false, true⟩ ∧ d.control = false ∧ d.singleQuotes ≤ 2) := by
  unfold formFor
  split_ifs with hA hB hC hD
  · exact .inl rfl
  · refine .inr (.inr (.inl ⟨rfl, ?_⟩))
    simp_all
  · exact .inr (.inl rfl)
  · refine .inr (.inr (.inr ⟨rfl, ?_⟩))
    simp_all
  · cases d.lineFeed
    · exact .inl rfl
    · exact .inr (.inl rfl)

/-- **A string is read back from the form in which it is written.** -/
theorem readString?_stringChars (text rest : List Char)
    (hrest : ∀ c ∈ rest.head?, c ≠ '"' ∧ c ≠ '\'') :
    readString? (stringChars text ++ rest) = some (String.ofList text, rest) := by
  have hbasic : ∀ c ∈ rest.head?, c ≠ '"' := fun c hc => (hrest c hc).1
  have hliteral : ∀ c ∈ rest.head?, c ≠ '\'' := fun c hc => (hrest c hc).2
  rw [stringChars]
  rcases formFor_cases (demands text) with hform | hform | ⟨hform, hcontrol, hquotes, hfeed, hother⟩ |
      ⟨hform, hcontrol, hquotes⟩
  · simpa [hform, StringForm.quotes] using readString?_shortBasic text hbasic
  · simpa [hform, StringForm.quotes, startOf] using readString?_longBasic text hbasic
  · have hne : text ≠ [] := by
      rintro rfl
      exact hother ⟨rfl, rfl⟩
    have htext : ∀ c ∈ text, isLiteral c = true := by
      intro c hc
      refine isLiteral_of_not_isControl ?_ ?_ ?_
      · exact Bool.eq_false_iff.2 (List.any_eq_false.1 hcontrol c hc)
      · rintro rfl
        exact not_mem_of_longestRun_eq_zero hquotes hc
      · rintro rfl
        simp [demands, hc] at hfeed
    simpa [hform, StringForm.quotes] using readString?_shortLiteral hne htext rest
  · have htext : ∀ c ∈ text, c = '\'' ∨ c = '\n' ∨ isLiteral c = true := by
      intro c hc
      by_cases hquote : c = '\''
      · exact .inl hquote
      by_cases hfeed : c = '\n'
      · exact .inr (.inl hfeed)
      exact .inr (.inr (isLiteral_of_not_isControl
        (Bool.eq_false_iff.2 (List.any_eq_false.1 hcontrol c hc)) hquote hfeed))
    simpa [hform, StringForm.quotes, startOf] using readString?_longLiteral hquotes htext hliteral

end CollisionWatch.Toml
