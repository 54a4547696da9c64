/-!
# Lines of a text

A line ends at a line feed or at the end of the text.  A carriage return right before a line feed
belongs to the line end; one at the very end of a text does not.  A text that ends in a line feed
has no empty line after it, and an empty text has no line at all.
-/

namespace CollisionWatch.Text

/-- The pieces between line feeds: one more than there are line feeds. -/
def splitFeeds : List Char → List Char × List (List Char)
  | [] => ([], [])
  | c :: rest =>
    let (piece, others) := splitFeeds rest
    if c = '\n' then ([], piece :: others) else (c :: piece, others)

/-- A piece that a line feed ended, without the carriage return before it. -/
def withoutReturn (piece : List Char) : List Char :=
  if piece.getLast? = some '\r' then piece.dropLast else piece

/-- The lines made of a piece and the ones after it; the last piece is no line if it is empty. -/
def closeLines : List Char → List (List Char) → List (List Char)
  | [], [] => []
  | piece, [] => [piece]
  | piece, next :: others => withoutReturn piece :: closeLines next others

/-- The lines of a text. -/
def lines (text : List Char) : List (List Char) :=
  let (piece, others) := splitFeeds text
  closeLines piece others

/-- The pieces spell the text again when line feeds are put between them. -/
theorem splitFeeds_spells (text : List Char) :
    (splitFeeds text).1 ++ ((splitFeeds text).2.map ('\n' :: ·)).flatten = text := by
  induction text with
  | nil => rfl
  | cons c rest ih =>
    by_cases h : c = '\n'
    · simp [splitFeeds, h, ih]
    · simp [splitFeeds, h, ih]

/-- No piece holds a line feed. -/
theorem splitFeeds_free (text : List Char) :
    '\n' ∉ (splitFeeds text).1 ∧ ∀ piece ∈ (splitFeeds text).2, '\n' ∉ piece := by
  induction text with
  | nil => simp [splitFeeds]
  | cons c rest ih =>
    by_cases h : c = '\n'
    · simpa [splitFeeds, h] using ih
    · refine ⟨?_, by simpa [splitFeeds, h] using ih.2⟩
      simpa [splitFeeds, h, Ne.symm h] using ih.1

end CollisionWatch.Text
