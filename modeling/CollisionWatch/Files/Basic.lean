import CollisionWatch.Files.Path

/-!
# Files

The few things that the program does with files, over any place that keeps them: a directory tree of
the machine, or one held in memory (`CollisionWatch.Files.Disk`).
-/

namespace CollisionWatch.Files

/-- Why a file could not be used. -/
inductive FileError where
  /-- Nothing has this name. -/
  | notFound
  /-- Something has this name already. -/
  | alreadyExists
  /-- A step of the path leads through a file. -/
  | notDirectory
  /-- A directory has this name. -/
  | isDirectory
  /-- The path, or a step of it, has more bytes than a name may have. -/
  | nameTooLong
  /-- The path holds the character that ends a name. -/
  | nameWithNul
  /-- The bytes are no text. -/
  | notText
  /-- Any other reason of the system, with its number. -/
  | other (text : String) (code : Nat)
  deriving Repr, DecidableEq

/-- The reason in words. -/
def FileError.message : FileError → String
  | notFound => "No such file or directory (os error 2)"
  | alreadyExists => "File exists (os error 17)"
  | notDirectory => "Not a directory (os error 20)"
  | isDirectory => "Is a directory (os error 21)"
  | nameTooLong => "File name too long (os error 36)"
  | nameWithNul => "file name contained an unexpected NUL byte"
  | notText => "stream did not contain valid UTF-8"
  | other text code => s!"{text} (os error {code})"

/-- Refuse a path that no file can have. -/
def checkPath (path : String) : Except FileError Unit :=
  if path.toList.contains '\x00' then .error .nameWithNul
  else if path = "" then .error .notFound
  else if longestPath < path.utf8ByteSize then .error .nameTooLong
  else .ok ()

/-- What a name may stand for. -/
inductive NodeKind where
  /-- A file. -/
  | file
  /-- A directory. -/
  | directory
  deriving Repr, DecidableEq

/-- A place that keeps files. -/
class FileStore (m : Type → Type) where
  /-- What a path leads to. -/
  kind? : String → m (Option NodeKind)
  /-- The bytes of a file. -/
  readBytes : String → m (Except FileError ByteArray)
  /-- Make one directory. -/
  makeDirectory : String → m (Except FileError Unit)
  /-- Make a file of a text, over an older one. -/
  writeText : String → String → m (Except FileError Unit)

variable {m : Type → Type} [Monad m] [FileStore m]

/-- A path leads somewhere. -/
def pathExists (path : String) : m Bool := return (← FileStore.kind? path).isSome

/-- The text of a file. -/
def readText (path : String) : m (Except FileError String) := do
  match ← FileStore.readBytes path with
  | .error e => return .error e
  | .ok bytes =>
    match String.fromUTF8? bytes with
    | some text => return .ok text
    | none => return .error .notText

/-- Make the last of these directories if it is not there, and before it the ones above that are
missing; the list has the innermost one first. -/
def makeMissing : List String → m (Except FileError Unit)
  | [] => return .ok ()
  | path :: above => do
    let settle (result : Except FileError Unit) : m (Except FileError Unit) := do
      match result with
      | .error .alreadyExists =>
        if (← FileStore.kind? path) = some .directory then return .ok () else return result
      | _ => return result
    match ← FileStore.makeDirectory path with
    | .error .notFound =>
      match ← makeMissing above with
      | .error e => return .error e
      | .ok () => settle (← FileStore.makeDirectory path)
    | result => settle result

/-- A path and the ones above it that name something. -/
def withAncestors (path : String) : List String :=
  let absolute := isAbsolute path
  let whole := (steps path).reverse
  let tails := (List.range whole.length).map fun n => ofSteps absolute (whole.drop n).reverse
  tails

/-- Make a directory and all that is missing above it. -/
def makeDirectories (path : String) : m (Except FileError Unit) := makeMissing (withAncestors path)

end CollisionWatch.Files
