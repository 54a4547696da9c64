import CollisionWatch.Text.Hidden

/-!
# Quoted names in messages

A name in a message stands between double quotes.  Inside, the quote and the backslash take a
backslash in front, the usual control characters have a letter, and every other hidden character is
written as its code point in hexadecimal, so that the message shows what the name holds.
-/

namespace CollisionWatch.Text

/-- The letter that stands for a character after a backslash, if it has one. -/
def escapeLetter : Char → Option Char
  | '\x00' => some '0'
  | '\t' => some 't'
  | '\r' => some 'r'
  | '\n' => some 'n'
  | '\\' => some '\\'
  | '"' => some '"'
  | _ => none

/-- A character between quotes. -/
def escapeQuoted (c : Char) : List Char :=
  match escapeLetter c with
  | some letter => ['\\', letter]
  | none =>
    if isHidden c then
      ['\\', 'u', '\x7b'] ++ Nat.toDigits 16 c.toNat ++ ['\x7d']
    else [c]

/-- A name between quotes. -/
def quoted (name : String) : String :=
  String.ofList ('"' :: (name.toList.flatMap escapeQuoted ++ ['"']))

end CollisionWatch.Text
