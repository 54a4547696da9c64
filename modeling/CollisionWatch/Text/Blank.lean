/-!
# Blank characters and trimming

The characters with the Unicode property `White_Space`.  `trim` removes them from both ends of a
text; `isBlankText` holds of a text made of nothing else.
-/

namespace CollisionWatch.Text

/-- The character has the Unicode property `White_Space`. -/
def isBlank (c : Char) : Bool :=
  let n := c.toNat
  (9 ≤ n && n ≤ 13) || n == 0x20 || n == 0x85 || n == 0xA0 || n == 0x1680 ||
    (0x2000 ≤ n && n ≤ 0x200A) || n == 0x2028 || n == 0x2029 || n == 0x202F || n == 0x205F ||
    n == 0x3000

/-- Without the blanks in front. -/
def trimStart (text : List Char) : List Char := text.dropWhile isBlank

/-- Without the blanks at either end. -/
def trim (text : List Char) : List Char := (trimStart (trimStart text).reverse).reverse

/-- Nothing but blanks. -/
def isBlankText (text : List Char) : Bool := text.all isBlank

end CollisionWatch.Text
