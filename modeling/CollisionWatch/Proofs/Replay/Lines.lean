import CollisionWatch.Proofs.Json.Trailing
import CollisionWatch.Replay.FrameLog

/-!
# Lines of a frame log

A frame log is read line by line.  The carriage return that some line ends carry stays with the last
line of a text, and an empty last line is none at all; neither makes a difference, since a value is
read the same with a blank behind it and an empty line is passed over.  So a log may be taken for
the pieces between its line feeds (`clouds_read`, `malformed_read`), and each piece is read by
itself.  Main statement: logs put together hold the clouds of each, and lines without a record put
anywhere into a log change nothing but the numbers of the lines behind them (`lines_independent`).
-/

namespace CollisionWatch

namespace Text

/-- The pieces of a text between its line feeds. -/
def pieces (text : List Char) : List (List Char) := (splitFeeds text).1 :: (splitFeeds text).2

/-- A line feed in front leaves an empty piece before it. -/
theorem pieces_feed (rest : List Char) : pieces ('\n' :: rest) = [] :: pieces rest := rfl

/-- Any other character belongs to the first piece. -/
theorem pieces_cons {c : Char} (h : c ≠ '\n') (rest : List Char) :
    pieces (c :: rest) = (c :: (splitFeeds rest).1) :: (splitFeeds rest).2 := by
  simp only [pieces, splitFeeds, if_neg h]

/-- A line feed separates the pieces before it from the pieces behind it. -/
theorem pieces_append_feed (front back : List Char) :
    pieces (front ++ '\n' :: back) = pieces front ++ pieces back := by
  induction front with
  | nil => rfl
  | cons c front ih =>
    by_cases hc : c = '\n'
    · subst hc
      rw [List.cons_append, pieces_feed, pieces_feed, ih, List.cons_append]
    · have hsplit := List.cons.inj ih
      rw [List.cons_append, pieces_cons hc, pieces_cons hc, hsplit.1, hsplit.2]
      rfl

/-- A text without a line feed is one piece. -/
theorem pieces_of_notMem {text : List Char} (h : '\n' ∉ text) : pieces text = [text] := by
  induction text with
  | nil => rfl
  | cons c rest ih =>
    rw [List.mem_cons, not_or] at h
    have hrest := List.cons.inj (ih h.2)
    rw [pieces_cons (Ne.symm h.1), hrest.1, hrest.2]

/-- There is one piece more than there are line feeds. -/
theorem length_pieces (text : List Char) : (pieces text).length = text.count '\n' + 1 := by
  induction text with
  | nil => rfl
  | cons c rest ih =>
    by_cases hc : c = '\n'
    · subst hc
      rw [pieces_feed, List.length_cons, ih, List.count_cons_self]
    · rw [pieces_cons hc, List.count_cons_of_ne hc, ← ih]
      rfl

/-- Lines put together fall into the same lines again. -/
theorem pieces_intercalate {lines : List (List Char)} (h : ∀ line ∈ lines, '\n' ∉ line)
    (hne : lines ≠ []) : pieces (['\n'].intercalate lines) = lines := by
  induction lines with
  | nil => exact absurd rfl hne
  | cons line lines ih =>
    have hline := pieces_of_notMem (h line List.mem_cons_self)
    cases lines with
    | nil => rw [List.intercalate_singleton, hline]
    | cons next lines =>
      have hnext := ih (fun l hl => h l (List.mem_cons_of_mem line hl)) (List.cons_ne_nil _ _)
      rw [List.intercalate_cons_cons, List.append_assoc, List.singleton_append,
        pieces_append_feed, hline, hnext, List.singleton_append]

/-- A text is its pieces put together. -/
theorem intercalate_pieces (text : List Char) : ['\n'].intercalate (pieces text) = text := by
  have hspell (piece : List Char) (others : List (List Char)) :
      ['\n'].intercalate (piece :: others) = piece ++ (others.map ('\n' :: ·)).flatten := by
    induction others generalizing piece with
    | nil => rw [List.intercalate_singleton, List.map_nil, List.flatten_nil, List.append_nil]
    | cons next others ih =>
      rw [List.intercalate_cons_cons, ih, List.append_assoc, List.map_cons, List.flatten_cons]
      rfl
  rw [pieces, hspell, splitFeeds_spells]

/-- No piece has a line feed in it. -/
theorem notMem_of_mem_pieces {text piece : List Char} (h : piece ∈ pieces text) : '\n' ∉ piece := by
  rcases List.mem_cons.1 h with rfl | hmem
  · exact (splitFeeds_free text).1
  · exact (splitFeeds_free text).2 piece hmem

end Text

/-! ## A line and its end -/

namespace LogLine

/-- A carriage return behind a line makes no difference. -/
theorem read_concat_return (line : List Char) : read (line ++ ['\r']) = read line := by
  have hvalue := Json.readChars?_append_gap (c := '\r') rfl line
  rw [read, read, hvalue]
  rcases Json.dropWhile_concat_cases (p := Text.isBlank) (a := '\r') rfl line with
    ⟨hline, hline'⟩ | ⟨d, rest, -, -, hline, hline'⟩
  · rw [Text.trimStart, Text.trimStart, hline, hline']
  · rw [Text.trimStart, Text.trimStart, hline, hline']
    by_cases hcomment : d = '#'
    · subst hcomment
      rfl
    · simp [hcomment]

/-- A line holds the same without the return at its end. -/
theorem read_withoutReturn (piece : List Char) : read (Text.withoutReturn piece) = read piece := by
  unfold Text.withoutReturn
  split
  · rename_i hlast
    obtain ⟨line, rfl⟩ := List.getLast?_eq_some_iff.1 hlast
    rw [List.dropLast_concat, read_concat_return]
  · rfl

end LogLine

namespace FrameLog

/-- The log of some lines. -/
def ofLines (lines : List (List Char)) : FrameLog := ⟨lines.map LogLine.read⟩

/-- The lines of a text hold what its pieces hold, up to an empty piece at the end. -/
theorem exists_map_pieces_eq (text : List Char) :
    ∃ tail, (tail = [] ∨ tail = [LogLine.skipped]) ∧
      (Text.pieces text).map LogLine.read = (Text.lines text).map LogLine.read ++ tail := by
  rw [Text.pieces, Text.lines]
  generalize Text.splitFeeds text = parts
  obtain ⟨piece, others⟩ := parts
  dsimp only
  induction others generalizing piece with
  | nil =>
    -- The last piece is the only one that can be missing among the lines.
    cases piece with
    | nil => exact ⟨[LogLine.skipped], .inr rfl, rfl⟩
    | cons c piece => exact ⟨[], .inl rfl, rfl⟩
  | cons next others ih =>
    obtain ⟨tail, htail, hmap⟩ := ih next
    refine ⟨tail, htail, ?_⟩
    rw [List.map_cons, hmap, Text.closeLines, List.map_cons, LogLine.read_withoutReturn]
    rfl

/-! ## Logs behind each other -/

/-- Logs one after the other have the clouds of each. -/
theorem clouds_append (lines more : List LogLine) :
    clouds ⟨lines ++ more⟩ = clouds ⟨lines⟩ ++ clouds ⟨more⟩ :=
  List.filterMap_append

/-- The numbers of malformed lines, in a log behind another one. -/
theorem malformed_append (lines more : List LogLine) :
    malformed ⟨lines ++ more⟩ =
      malformed ⟨lines⟩ ++ (malformed ⟨more⟩).map (· + lines.length) := by
  have hshift : more.zipIdx (1 + lines.length) =
      (more.zipIdx 1).map (Prod.map id (· + lines.length)) := by
    rw [List.map_snd_add_zipIdx_eq_zipIdx, Nat.add_comm]
  simp only [malformed]
  rw [List.zipIdx_append, List.filterMap_append, hshift, List.filterMap_map, List.map_filterMap]
  congr 2
  funext ⟨line, number⟩
  cases line <;> rfl

/-- A text has the clouds of its pieces. -/
theorem clouds_read (text : String) :
    (read text).clouds = (ofLines (Text.pieces text.toList)).clouds := by
  obtain ⟨tail, htail, hmap⟩ := exists_map_pieces_eq text.toList
  rw [ofLines, hmap, clouds_append]
  rcases htail with rfl | rfl
  · exact (List.append_nil _).symm
  · exact (List.append_nil _).symm

/-- The malformed lines of a text are those of its pieces. -/
theorem malformed_read (text : String) :
    (read text).malformed = (ofLines (Text.pieces text.toList)).malformed := by
  obtain ⟨tail, htail, hmap⟩ := exists_map_pieces_eq text.toList
  rw [ofLines, hmap, malformed_append]
  rcases htail with rfl | rfl
  · exact (List.append_nil _).symm
  · exact (List.append_nil _).symm

/-- Lines one after the other make logs one after the other. -/
theorem ofLines_append (lines more : List (List Char)) :
    ofLines (lines ++ more) = ⟨(ofLines lines).lines ++ (ofLines more).lines⟩ := by
  simp only [ofLines, List.map_append]

/-- The pieces of two texts on lines of their own. -/
theorem pieces_join (front back : String) :
    Text.pieces (front ++ "\n" ++ back).toList =
      Text.pieces front.toList ++ Text.pieces back.toList := by
  have htext : (front ++ "\n" ++ back).toList = front.toList ++ '\n' :: back.toList := by simp
  rw [htext, Text.pieces_append_feed]

/-- Logs put together hold the clouds of each. -/
theorem clouds_join (front back : String) :
    (read (front ++ "\n" ++ back)).clouds = (read front).clouds ++ (read back).clouds := by
  rw [clouds_read, pieces_join, ofLines_append, clouds_append, clouds_read, clouds_read]

/-- Logs put together hold the malformed lines of each. -/
theorem malformed_join (front back : String) :
    (read (front ++ "\n" ++ back)).malformed = (read front).malformed ++
      (read back).malformed.map (· + (1 + front.toList.count '\n')) := by
  have hlength : (ofLines (Text.pieces front.toList)).lines.length =
      1 + front.toList.count '\n' := by
    rw [ofLines, List.length_map, Text.length_pieces, Nat.add_comm]
  rw [malformed_read, pieces_join, ofLines_append, malformed_append, malformed_read,
    malformed_read, hlength]

/-! ## Lines without a record -/

/-- A line without a record: blanks, or a comment behind blanks. -/
def IsPadding (line : String) : Prop :=
  ∃ blanks more : List Char, line.toList = blanks ++ more ∧
    (∀ c ∈ blanks, Text.isBlank c = true) ∧ (more = [] ∨ more.head? = some '#')

/-- A line of padding is passed over. -/
theorem IsPadding.read_eq {line : String} (h : IsPadding line) :
    LogLine.read line.toList = .skipped := by
  obtain ⟨blanks, more, hline, hblanks, hmore⟩ := h
  have htrim : Text.trimStart line.toList = Text.trimStart more := by
    rw [hline, Text.trimStart, List.dropWhile_append_of_pos hblanks, Text.trimStart]
  rw [LogLine.read, htrim]
  rcases hmore with rfl | hhead
  · rfl
  · obtain ⟨comment, rfl⟩ := List.head?_eq_some_iff.1 hhead
    rfl

/-- Lines, the same lines with others without a record put among them, and the numbers that the
former lines get. -/
inductive Padded : List String → List String → List Nat → Prop where
  /-- No line. -/
  | nil : Padded [] [] []
  /-- A line that was there. -/
  | keep {line : String} {lines padded : List String} {numbers : List Nat} :
      '\n' ∉ line.toList → Padded lines padded numbers →
        Padded (line :: lines) (line :: padded) (1 :: numbers.map (· + 1))
  /-- A line put in. -/
  | insert {line : String} {lines padded : List String} {numbers : List Nat} :
      '\n' ∉ line.toList → IsPadding line → Padded lines padded numbers →
        Padded lines (line :: padded) (numbers.map (· + 1))

/-- The clouds of the first line come first. -/
theorem clouds_cons (line : List Char) (lines : List (List Char)) :
    (ofLines (line :: lines)).clouds = clouds ⟨[LogLine.read line]⟩ ++ (ofLines lines).clouds :=
  clouds_append [LogLine.read line] (ofLines lines).lines

/-- The lines behind the first one have higher numbers. -/
theorem malformed_cons (line : List Char) (lines : List (List Char)) :
    (ofLines (line :: lines)).malformed =
      malformed ⟨[LogLine.read line]⟩ ++ (ofLines lines).malformed.map (· + 1) :=
  malformed_append [LogLine.read line] (ofLines lines).lines

/-- Numbers of lines begin with one. -/
theorem pos_of_mem_malformed {log : FrameLog} {number : Nat} (h : number ∈ log.malformed) :
    0 < number := by
  obtain ⟨⟨line, n⟩, hmem, hn⟩ := List.mem_filterMap.1 h
  have hle := (List.mem_zipIdx hmem).1
  cases line with
  | malformed =>
    obtain rfl : n = number := Option.some.inj hn
    exact hle
  | skipped => cases hn
  | cloud c => cases hn

/-- Lines without a record hold no cloud. -/
theorem Padded.clouds_eq {lines padded : List String} {numbers : List Nat}
    (h : Padded lines padded numbers) :
    (ofLines (padded.map String.toList)).clouds = (ofLines (lines.map String.toList)).clouds := by
  induction h with
  | nil => rfl
  | keep _ _ ih => rw [List.map_cons, List.map_cons, clouds_cons, clouds_cons, ih]
  | insert _ hline _ ih =>
    rw [List.map_cons, clouds_cons, hline.read_eq]
    exact ih

/-- Numbers of the same lines, with one line in front of them. -/
theorem map_succ_eq {log more : FrameLog} {numbers : List Nat}
    (h : log.malformed.map some = more.malformed.map (numbers[· - 1]?)) :
    (log.malformed.map (· + 1)).map some =
      more.malformed.map ((numbers.map (· + 1))[· - 1]?) := by
  have hboth : (log.malformed.map (· + 1)).map some =
      (log.malformed.map some).map (Option.map (· + 1)) := by
    rw [List.map_map, List.map_map]
    rfl
  rw [hboth, h, List.map_map]
  refine List.map_congr_left fun number _ => ?_
  exact List.getElem?_map.symm

/-- The malformed lines are the same ones, with other numbers. -/
theorem Padded.malformed_eq {lines padded : List String} {numbers : List Nat}
    (h : Padded lines padded numbers) :
    (ofLines (padded.map String.toList)).malformed.map some =
      (ofLines (lines.map String.toList)).malformed.map (numbers[· - 1]?) := by
  induction h with
  | nil => rfl
  | @keep line lines padded numbers _ _ ih =>
    have hfirst : (malformed ⟨[LogLine.read line.toList]⟩).map some =
        (malformed ⟨[LogLine.read line.toList]⟩).map ((1 :: numbers.map (· + 1))[· - 1]?) := by
      cases LogLine.read line.toList <;> rfl
    have hothers : (ofLines (lines.map String.toList)).malformed.map
          ((numbers.map (· + 1))[· - 1]?) =
        ((ofLines (lines.map String.toList)).malformed.map (· + 1)).map
          ((1 :: numbers.map (· + 1))[· - 1]?) := by
      rw [List.map_map]
      refine List.map_congr_left fun number hnumber => ?_
      obtain ⟨k, rfl⟩ := Nat.exists_eq_add_of_lt (pos_of_mem_malformed hnumber)
      simp
    rw [List.map_cons, List.map_cons, malformed_cons, malformed_cons, List.map_append,
      List.map_append, hfirst, map_succ_eq ih, hothers]
  | insert _ hline _ ih =>
    rw [List.map_cons, malformed_cons, hline.read_eq]
    exact map_succ_eq ih

/-- No line of either log has a line feed in it. -/
theorem Padded.notMem {lines padded : List String} {numbers : List Nat}
    (h : Padded lines padded numbers) :
    (∀ line ∈ lines, '\n' ∉ line.toList) ∧ ∀ line ∈ padded, '\n' ∉ line.toList := by
  induction h with
  | nil => exact ⟨nofun, nofun⟩
  | keep hline _ ih =>
    exact ⟨List.forall_mem_cons.2 ⟨hline, ih.1⟩, List.forall_mem_cons.2 ⟨hline, ih.2⟩⟩
  | insert hline _ _ ih => exact ⟨ih.1, List.forall_mem_cons.2 ⟨hline, ih.2⟩⟩

/-- Lines put together make a log of these lines; of no lines, a log of one empty line. -/
theorem pieces_intercalate_lines {lines : List String} (h : ∀ line ∈ lines, '\n' ∉ line.toList) :
    Text.pieces ("\n".intercalate lines).toList = lines.map String.toList ∨
      lines = [] ∧ Text.pieces ("\n".intercalate lines).toList = [[]] := by
  cases lines with
  | nil => exact .inr ⟨rfl, rfl⟩
  | cons line lines =>
    refine .inl ?_
    rw [String.toList_intercalate]
    exact Text.pieces_intercalate (List.forall_mem_map.2 h) (List.cons_ne_nil _ _)

/-- Lines that are joined into a text have the clouds that they have by themselves. -/
theorem clouds_intercalate {lines : List String} (h : ∀ line ∈ lines, '\n' ∉ line.toList) :
    (read ("\n".intercalate lines)).clouds = (ofLines (lines.map String.toList)).clouds := by
  rw [clouds_read]
  rcases pieces_intercalate_lines h with hpieces | ⟨rfl, hpieces⟩
  · rw [hpieces]
  · rw [hpieces]
    rfl

/-- Lines that are joined have the malformed lines that they have by themselves. -/
theorem malformed_intercalate {lines : List String} (h : ∀ line ∈ lines, '\n' ∉ line.toList) :
    (read ("\n".intercalate lines)).malformed =
      (ofLines (lines.map String.toList)).malformed := by
  rw [malformed_read]
  rcases pieces_intercalate_lines h with hpieces | ⟨rfl, hpieces⟩
  · rw [hpieces]
  · rw [hpieces]
    rfl

/-- Every text is some lines put together. -/
theorem exists_intercalate_eq (text : String) :
    ∃ lines : List String,
      (∀ line ∈ lines, '\n' ∉ line.toList) ∧ "\n".intercalate lines = text := by
  refine ⟨(Text.pieces text.toList).map String.ofList, ?_, ?_⟩
  · intro line hline
    obtain ⟨piece, hpiece, rfl⟩ := List.mem_map.1 hline
    rw [String.toList_ofList]
    exact Text.notMem_of_mem_pieces hpiece
  · apply String.toList_injective
    rw [String.toList_intercalate, List.map_map]
    have hpieces : (Text.pieces text.toList).map (String.toList ∘ String.ofList) =
        Text.pieces text.toList := by
      simp [Function.comp_def]
    rw [hpieces]
    exact Text.intercalate_pieces text.toList

/-- **Lines are independent of each other.**  A log behind another one holds the clouds of both, and
its malformed lines keep their places behind the lines of the other one.  Every text is made of
lines, and blank lines and comments put among them, wherever it may be, change neither the clouds
nor which lines are malformed. -/
theorem lines_independent :
    (∀ front back : String,
      (read (front ++ "\n" ++ back)).clouds = (read front).clouds ++ (read back).clouds ∧
        (read (front ++ "\n" ++ back)).malformed = (read front).malformed ++
          (read back).malformed.map (· + (1 + front.toList.count '\n'))) ∧
      (∀ text : String, ∃ lines : List String,
        (∀ line ∈ lines, '\n' ∉ line.toList) ∧ "\n".intercalate lines = text) ∧
      ∀ (lines padded : List String) (numbers : List Nat), Padded lines padded numbers →
        (read ("\n".intercalate padded)).clouds = (read ("\n".intercalate lines)).clouds ∧
          (read ("\n".intercalate padded)).malformed.map some =
            (read ("\n".intercalate lines)).malformed.map (numbers[· - 1]?) := by
  refine ⟨fun front back => ⟨clouds_join front back, malformed_join front back⟩,
    exists_intercalate_eq, ?_⟩
  intro lines padded numbers h
  obtain ⟨hlines, hpadded⟩ := h.notMem
  rw [clouds_intercalate hlines, clouds_intercalate hpadded, malformed_intercalate hlines,
    malformed_intercalate hpadded]
  exact ⟨h.clouds_eq, h.malformed_eq⟩

/-- Two broken records, a carriage return behind the first, with an indented comment between them
and a blank line in front. -/
theorem lines_independent_broken :
    Padded ["\x7b\r", "?"] ["\u3000\r", "\x7b\r", "\t # \x7b", "?"] [2, 4] ∧
      (read ("\n".intercalate ["\u3000\r", "\x7b\r", "\t # \x7b", "?"])).malformed.map some =
        (read ("\n".intercalate ["\x7b\r", "?"])).malformed.map ([2, 4][· - 1]?) ∧
      (read ("\n".intercalate ["\x7b\r", "?"])).malformed = [1, 2] := by
  have hpadded : Padded ["\x7b\r", "?"] ["\u3000\r", "\x7b\r", "\t # \x7b", "?"] [2, 4] := by
    refine .insert (by simp) ⟨['\u3000', '\r'], [], rfl, ?_, .inl rfl⟩ (.keep (by simp)
      (.insert (by simp) ⟨['\t', ' '], ['#', ' ', '\x7b'], rfl, ?_, .inr rfl⟩
        (.keep (by simp) .nil)))
    · exact List.all_eq_true.1 rfl
    · exact List.all_eq_true.1 rfl
  exact ⟨hpadded, (lines_independent.2.2 _ _ _ hpadded).2, rfl⟩

end FrameLog

end CollisionWatch
