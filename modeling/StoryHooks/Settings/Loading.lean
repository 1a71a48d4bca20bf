import StoryHooks.Settings.Sections
import StoryHooks.Text.Utf8

/-!
# Loading settings

Settings come from a text or from a file. A file is read, overridden by the environment and only
then validated, so an override can mend what the file has wrong. A missing file can stand for the
defaults.
-/

namespace StoryHooks.Settings

inductive LoadError
  | notFound (path : String)
  | notUtf8 (path : String)
  | isDirectory (path : String)
  | malformed
  | invalid (fault : SettingsFault)
deriving DecidableEq, Repr

namespace LoadError

/-- The wording; what is malformed in a document is not worded here. -/
def message : LoadError → String
  | notFound path => "Config file not found: " ++ path
  | notUtf8 path => "IO error reading " ++ path ++ ": stream did not contain valid UTF-8"
  | isDirectory path => "IO error reading " ++ path ++ ": Is a directory (os error 21)"
  | malformed => "Parse error"
  | invalid fault => "Invalid configuration: " ++ fault.message

end LoadError

inductive FileState
  | absent
  | directory
  | file (bytes : List UInt8)
deriving DecidableEq, Repr

/-- What is at a path in an empty directory: the directory itself or one around it, or nothing. -/
def FileState.inEmptyDirectory (path : String) : FileState :=
  let stays := fun part => part == "" || part == "." || part == ".."
  if path ≠ "" && (path.splitOn "/").all stays then .directory else .absent

def checked (s : Settings) : Except LoadError Settings :=
  match s.validate with
  | .ok s => .ok s
  | .error fault => .error (.invalid fault)

def ofText (text : String) : Except LoadError Settings :=
  match ofDocument? text with
  | none => .error .malformed
  | some s => s.checked

def readFile (path : String) : FileState → Except LoadError String
  | .absent => .error (.notFound path)
  | .directory => .error (.isDirectory path)
  | .file bytes =>
    match Text.Utf8.decode bytes with
    | .ok text => .ok text
    | .error _ => .error (.notUtf8 path)

/-- The settings of a file under an environment, with what is reported on the way. -/
def load (path : String) (state : FileState) (env : Environment) :
    Except LoadError Settings × List Event :=
  match readFile path state with
  | .error e => (.error e, [])
  | .ok text =>
    match ofDocument? text with
    | none => (.error .malformed, [])
    | some s =>
      let (s, events) := s.override env
      match s.checked with
      | .ok s => (.ok s, events ++ [.settingsLoaded path])
      | .error e => (.error e, events)

def loadDefaults (env : Environment) : Except LoadError Settings × List Event :=
  let (s, events) := ({} : Settings).override env
  (s.checked, events)

def loadOrDefault (path : String) (state : FileState) (env : Environment) :
    Except LoadError Settings × List Event :=
  match load path state env with
  | (.error (.notFound missing), _) =>
    let (result, events) := loadDefaults env
    (result, .settingsMissing missing :: events)
  | other => other

end StoryHooks.Settings
