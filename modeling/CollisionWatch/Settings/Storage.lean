import CollisionWatch.Files.Basic
import CollisionWatch.Settings.Document
import CollisionWatch.Settings.Environment

/-!
# Settings in a file

`load?` reads the settings of a file and lets the environment override them; without a file there is
nothing to load.  `save` writes settings, after making the directories above the file.
-/

namespace CollisionWatch.Settings

variable {m : Type → Type} [Monad m] [Files.FileStore m]

/-- Why settings could not be loaded or saved. -/
inductive StorageError where
  /-- The file could not be read. -/
  | unreadable (path : String) (error : Files.FileError)
  /-- The file holds no settings. -/
  | malformed
  /-- The directory of the file could not be made. -/
  | noDirectory (error : Files.FileError)
  /-- The file could not be written. -/
  | unwritable (path : String) (error : Files.FileError)
  deriving Repr

/-- The error in words. -/
def StorageError.message : StorageError → String
  | unreadable path error => s!"Failed to read config at {path}: {error.message}"
  | malformed => "Failed to parse config: not a valid configuration"
  | noDirectory error => s!"Failed to create config directory: {error.message}"
  | unwritable path error => s!"Failed to write config at {path}: {error.message}"

/-- The settings of a file, if there is one. -/
def load? (path : String) (env : Environment) : m (Except StorageError (Option Settings)) := do
  if ← Files.pathExists path then
    match ← Files.readText path with
    | .error e => return .error (.unreadable path e)
    | .ok text =>
      match ofDocument? text with
      | none => return .error .malformed
      | some s => return .ok (some (s.override env))
  else return .ok none

/-- Write settings to a file. -/
def save (s : Settings) (path : String) : m (Except Crash (Except StorageError Unit)) := do
  let made ← match Files.parent? path with
    | some directory => Files.makeDirectories directory
    | none => pure (.ok ())
  match made, s.document with
  | .error e, _ => return .ok (.error (.noDirectory e))
  | .ok (), .error c => return .error c
  | .ok (), .ok document =>
    match ← Files.FileStore.writeText path document with
    | .error e => return .ok (.error (.unwritable path e))
    | .ok () => return .ok (.ok ())

/-- Where settings are kept when no file is named. -/
def usualPath (env : Environment) : String :=
  let home := ((env "HOME").or (env "USERPROFILE")).getD "."
  Files.join (Files.join home ".guardian") "config.toml"

end CollisionWatch.Settings
