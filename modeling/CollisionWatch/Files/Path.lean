/-!
# Paths

A path is the text that names a file.  What counts are its steps: the parts between slashes, without
empty ones and those that stay where they are.
-/

namespace CollisionWatch.Files

/-- The parts of a text between slashes. -/
def splitSlashes : List Char → List (List Char)
  | [] => [[]]
  | c :: rest =>
    match splitSlashes rest with
    | [] => [[c]]
    | part :: others => if c = '/' then [] :: part :: others else (c :: part) :: others

/-- The steps of a path. -/
def steps (path : String) : List String :=
  ((splitSlashes path.toList).map String.ofList).filter fun part => part ≠ "" ∧ part ≠ "."

/-- The path starts at the root. -/
def isAbsolute (path : String) : Bool := path.toList.head? == some '/'

/-- How a path ends. -/
inductive Ending where
  /-- In the name of a step. -/
  | name
  /-- In a slash after that name: it names a directory, if anything. -/
  | slash
  /-- In a dot after a slash: it names a directory that is there already. -/
  | dot
  deriving Repr, DecidableEq

/-- How a path ends; slashes after a dot change nothing. -/
def ending (path : String) : Ending :=
  let parts := (splitSlashes path.toList).reverse
  match parts.dropWhile (· == []) with
  | ['.'] :: _ => .dot
  | rest => if rest.length < parts.length then .slash else .name

/-- The most bytes of one step. -/
def longestStep : Nat := 255

/-- The most bytes of a whole path. -/
def longestPath : Nat := 4095

/-- A path of steps. -/
def ofSteps (absolute : Bool) (steps : List String) : String :=
  (if absolute then "/" else "") ++ "/".intercalate steps

/-- The path without its last step; none for a root or for no path at all. -/
def parent? (path : String) : Option String :=
  match (steps path).reverse with
  | [] => none
  | _ :: rest => some (ofSteps (isAbsolute path) rest.reverse)

/-- A path below another one. -/
def join (path below : String) : String :=
  if isAbsolute below || path == "" then below
  else if path.toList.getLast? = some '/' then path ++ below
  else path ++ "/" ++ below

end CollisionWatch.Files
