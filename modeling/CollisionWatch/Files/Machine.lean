import CollisionWatch.Files.Basic

/-!
# The files of the machine

The machine's own file system as a place that keeps files.
-/

namespace CollisionWatch.Files

/-- The error with a number, of those that the system counts; some calls count downwards. -/
def FileError.ofNumber (number : Nat) (text : String) : FileError :=
  match min number (UInt32.size - number) with
  | 2 => .notFound
  | 13 => .other "Permission denied" 13
  | 17 => .alreadyExists
  | 20 => .notDirectory
  | 21 => .isDirectory
  | 36 => .nameTooLong
  | n => .other text n

/-- The error that the machine reports. -/
def FileError.ofMachine : IO.Error → FileError
  | .alreadyExists _ n text | .permissionDenied _ n text | .invalidArgument _ n text
  | .resourceExhausted _ n text | .inappropriateType _ n text | .noSuchThing _ n text
  | .interrupted _ n text | .noFileOrDirectory _ n text => ofNumber n.toNat text
  | .otherError n text | .resourceBusy n text | .resourceVanished n text
  | .unsupportedOperation n text | .hardwareFault n text | .unsatisfiedConstraints n text
  | .illegalOperation n text | .protocolError n text | .timeExpired n text =>
    ofNumber n.toNat text
  | .unexpectedEof => .other "Unexpected end of file" 0
  | .userError text => .other text 0

/-- What came of an action on a path. -/
def attempt {α : Type} (path : String) (action : IO α) : IO (Except FileError α) := do
  match checkPath path with
  | .error e => return .error e
  | .ok () =>
    match ← action.toBaseIO with
    | .ok a => return .ok a
    | .error e => return .error (.ofMachine e)

/-- The machine keeps files.  What cannot be opened for want of permission counts as a file. -/
instance : FileStore IO where
  kind? path := do
    let first : IO ByteArray := do (← IO.FS.Handle.mk path .read).read 1
    match ← attempt path first with
    | .ok _ => return some .file
    | .error .isDirectory => return some .directory
    | .error (.other _ 13) => return some .file
    | .error _ => return none
  readBytes path := attempt path (IO.FS.readBinFile path)
  makeDirectory path := attempt path (IO.FS.createDir path)
  writeText path text := attempt path (IO.FS.writeFile path text)

end CollisionWatch.Files
