import CollisionWatch.Decimal.Style
import CollisionWatch.Toml.Text

/-!
# Writing TOML

How the parts of a document are written.  A string takes the plainest form that needs no escape: the
double quotes, the single quotes, then each of them tripled; a string that none of these can hold is
written with escapes, over several lines if it has line feeds.  A string with too many quotes in a
row cannot be written at all.  A float always has a point, and never
an exponent.  A list of two or more items has one on each line.
-/

namespace CollisionWatch.Toml

open Decimal (Style Binary digitsOfNat)

/-! ## Strings -/

/-- The form of a written string. -/
structure StringForm where
  /-- It stands between double quotes, and knows escapes. -/
  basic : Bool
  /-- Its quotes are tripled. -/
  long : Bool
  deriving Repr, DecidableEq

/-- What a string asks of its form. -/
structure Demands where
  /-- It holds control characters other than tabs and line feeds. -/
  control : Bool
  /-- It holds backslashes. -/
  backslash : Bool
  /-- It holds line feeds. -/
  lineFeed : Bool
  /-- The longest run of single quotes. -/
  singleQuotes : Nat
  /-- The longest run of double quotes. -/
  doubleQuotes : Nat
  deriving Repr, DecidableEq

/-- The longest run of a character, after `run` of them. -/
def longestRun (quote : Char) : Nat → List Char → Nat
  | run, [] => run
  | run, c :: rest =>
    if c = quote then longestRun quote (run + 1) rest else max run (longestRun quote 0 rest)

/-- The longest run of one quote in a string that can be written: runs are counted in a byte. -/
def mostQuotes : Nat := 255

/-- The string can be written. -/
def isWritable (text : List Char) : Bool :=
  longestRun '\'' 0 text ≤ mostQuotes && longestRun '"' 0 text ≤ mostQuotes

/-- Control characters that only an escape can write. -/
def isControl (c : Char) : Bool :=
  (c.toNat < 0x20 && c != '\t' && c != '\n') || c.toNat == 0x7F

/-- What a string asks of its form. -/
def demands (text : List Char) : Demands where
  control := text.any isControl
  backslash := text.contains '\\'
  lineFeed := text.contains '\n'
  singleQuotes := longestRun '\'' 0 text
  doubleQuotes := longestRun '"' 0 text

/-- The form in which a string is written. -/
def formFor (d : Demands) : StringForm :=
  if !d.control && !d.backslash && d.doubleQuotes == 0 && !d.lineFeed then ⟨true, false⟩
  else if !d.control && d.singleQuotes == 0 && !d.lineFeed then ⟨false, false⟩
  else if !d.control && !d.backslash && d.doubleQuotes ≤ 2 then ⟨true, true⟩
  else if !d.control && d.singleQuotes ≤ 2 then ⟨false, true⟩
  else ⟨true, d.lineFeed⟩

/-- The quotes around a string. -/
def StringForm.quotes (form : StringForm) : List Char :=
  List.replicate (if form.long then 3 else 1) (if form.basic then '"' else '\'')

/-- A code point of a control character, in four digits. -/
def controlEscape (c : Char) : List Char :=
  let n := c.toNat
  '\\' :: 'u' :: [n / 4096, n / 256 % 16, n / 16 % 16, n % 16].map fun d =>
    (Nat.digitChar d).toUpper

/-- A character other than a quote, between double quotes. -/
def escapeChar (long : Bool) (c : Char) : List Char :=
  if c = '\x08' then ['\\', 'b']
  else if c = '\t' then ['\\', 't']
  else if c = '\n' then (if long then ['\n'] else ['\\', 'n'])
  else if c = '\x0c' then ['\\', 'f']
  else if c = '\r' then ['\\', 'r']
  else if c = '\\' then ['\\', '\\']
  else if isControl c then controlEscape c
  else [c]

/-- The content of a string between double quotes, after `run` quotes in a row.  Tripled quotes may
hold two in a row, single ones none; a quote beyond that is escaped. -/
def escapeBasic (long : Bool) : Nat → List Char → List Char
  | _, [] => []
  | run, c :: rest =>
    if c = '"' then
      if (if long then 2 else 0) < run + 1 then '\\' :: '"' :: escapeBasic long 0 rest
      else '"' :: escapeBasic long (run + 1) rest
    else escapeChar long c ++ escapeBasic long 0 rest

/-- A string. -/
def stringChars (text : List Char) : List Char :=
  let form := formFor (demands text)
  let start := if form.long && text.contains '\n' then ['\n'] else []
  let body := if form.basic then escapeBasic form.long 0 text else text
  form.quotes ++ start ++ body ++ form.quotes

/-! ## Other values -/

/-- A float: all digits, and a point. -/
def floatStyle : Style := ⟨none, none, true, false, .away⟩

/-- A float. -/
def floatChars (x : Float) : List Char :=
  (floatStyle.textWith "inf" "nan" (.ofDouble x)).toList

/-- The items of a list, each on a line of its own. -/
def itemLines (items : List (List Char)) : List Char :=
  items.flatMap fun item => List.replicate 4 ' ' ++ item ++ [',', '\n']

/-- A list. -/
def arrayChars (items : List (List Char)) : List Char :=
  match items with
  | [] => ['[', ']']
  | [item] => '[' :: (item ++ [']'])
  | items => '[' :: '\n' :: (itemLines items ++ [']'])

/-! ## Lines -/

/-- An entry.  The key is one that needs no quotes. -/
def entryLine (key : String) (value : List Char) : List Char :=
  key.toList ++ [' ', '=', ' '] ++ value ++ ['\n']

/-- The header of a table, after an empty line. -/
def tableLine (path : List String) : List Char :=
  '\n' :: '[' :: ((".".intercalate path).toList ++ [']', '\n'])

/-- The header of one more of several tables, after an empty line. -/
def oneOfManyLine (path : List String) : List Char :=
  '\n' :: '[' :: '[' :: ((".".intercalate path).toList ++ [']', ']', '\n'])

end CollisionWatch.Toml
