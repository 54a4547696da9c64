import CollisionWatch.Files.Basic

/-!
# A directory tree in memory

A `Disk` maps the steps of a path to a file or a directory.  The root is always a directory; every
other path has to be made, inside a directory that is there.
-/

namespace CollisionWatch.Files

/-- What a path leads to. -/
inductive Node where
  /-- A file with its bytes. -/
  | file (bytes : ByteArray)
  /-- A directory. -/
  | directory

/-- The kind of a node. -/
def Node.kind : Node → NodeKind
  | file _ => .file
  | directory => .directory

/-- A directory tree: nodes by the steps that lead to them. -/
structure Disk where
  /-- The nodes below the root. -/
  nodes : List (List String × Node) := []

namespace Disk

/-- The node that steps lead to. -/
def node? (disk : Disk) (steps : List String) : Option Node :=
  if steps.isEmpty then some .directory else disk.nodes.lookup steps

/-- Put a node in its place, over an older one. -/
def put (disk : Disk) (steps : List String) (node : Node) : Disk :=
  ⟨(steps, node) :: disk.nodes.filter (·.1 != steps)⟩

/-- Refuse steps that do not lead to a directory. -/
def requireDirectory (disk : Disk) (steps : List String) : Except FileError Unit :=
  match disk.node? steps with
  | none => .error .notFound
  | some (.file _) => .error .notDirectory
  | some .directory => .ok ()

/-- Follow the steps of a path from a directory; a step upwards leaves it again. -/
def walk (disk : Disk) : List String → List String → Except FileError (List String)
  | here, [] => .ok here
  | here, step :: rest => do
    disk.requireDirectory here
    if longestStep < step.utf8ByteSize then throw .nameTooLong
    walk disk (if step = ".." then here.dropLast else here ++ [step]) rest

/-- The steps that a path comes down to, if everything before its last step is a directory, and what
must be one at its end is one. -/
def resolve (disk : Disk) (path : String) : Except FileError (List String) := do
  checkPath path
  let steps ← disk.walk [] (steps path)
  if ending path = .dot then disk.requireDirectory steps
  return steps

/-- The node of a path. -/
def find (disk : Disk) (path : String) : Except FileError Node := do
  let steps ← disk.resolve path
  match disk.node? steps with
  | none => throw .notFound
  | some node =>
    if ending path = .slash then disk.requireDirectory steps
    return node

/-- The bytes of a file. -/
def readBytes (disk : Disk) (path : String) : Except FileError ByteArray := do
  match ← disk.find path with
  | .file bytes => return bytes
  | .directory => throw .isDirectory

/-- The disk with one more directory. -/
def makeDirectory (disk : Disk) (path : String) : Except FileError Disk := do
  let steps ← disk.resolve path
  match disk.node? steps with
  | some _ => throw .alreadyExists
  | none => return disk.put steps .directory

/-- The disk with a file of these bytes.  A path that ends in a slash names no file, whatever stands
there. -/
def write (disk : Disk) (path : String) (bytes : ByteArray) : Except FileError Disk := do
  checkPath path
  if ending path = .slash then
    disk.requireDirectory (← disk.walk [] (steps path).dropLast)
    throw .isDirectory
  let steps ← disk.resolve path
  match disk.node? steps with
  | some .directory => throw .isDirectory
  | _ => return disk.put steps (.file bytes)

/-- The disk after an operation, and whether it succeeded. -/
def apply (change : Disk → Except FileError Disk) : StateM Disk (Except FileError Unit) := do
  match change (← get) with
  | .ok disk =>
    set disk
    return .ok ()
  | .error e => return .error e

/-- A disk is a place that keeps files. -/
instance : FileStore (StateM Disk) where
  kind? path := return ((← get).find path).toOption.map Node.kind
  readBytes path := return (← get).readBytes path
  makeDirectory path := apply (·.makeDirectory path)
  writeText path text := apply (·.write path text.toUTF8)

end Disk

end CollisionWatch.Files
