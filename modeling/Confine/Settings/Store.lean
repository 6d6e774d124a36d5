import Confine.Location
import Confine.Settings.Document

set_option autoImplicit false

/-! # The settings file

`Config` is the settings together with the file that they belong to. Loading a file that is not
there gives the defaults and writes nothing; saving creates the directories above the file. -/

namespace Confine

/-- Settings and where they belong. -/
structure Config where
  /-- The directories of the program. -/
  location : Location
  /-- The file that the settings were loaded from or will be saved to. -/
  source : String
  /-- The settings. -/
  settings : Settings := {}
  deriving DecidableEq, Repr

namespace Config

/-- Why settings were not loaded. -/
inductive LoadError where
  /-- The file cannot be read. -/
  | unreadable (source : String) (fault : Fault)
  /-- The file does not hold settings. -/
  | malformed (source : String)
  deriving DecidableEq, Repr

/-- The wording of a failure. -/
def LoadError.message : LoadError → String
  | .unreadable source _ => "Failed to read config: " ++ source
  | .malformed source => "Failed to parse config: " ++ source

/-- What lies behind a failure. -/
def LoadError.causes : LoadError → List String
  | .unreadable _ fault => [fault.message]
  | .malformed _ => ["TOML parse error"]

/-- Load the settings from a file, by default from the one in the program's directory. -/
def load (t : FileTree) (location : Location) (path : Option String) :
    Except LoadError Config :=
  let source := path.getD location.configFile
  if t.exists? source then
    match t.readText source with
    | .error fault => .error (.unreadable source fault)
    | .ok text =>
      match Settings.parse? text with
      | none => .error (.malformed source)
      | some settings => .ok { location, source, settings }
  else .ok { location, source }

/-- The value of the setting with a written key. -/
def get (c : Config) (key : String) : Except Settings.Error String :=
  c.settings.get key

/-- Change the setting with a written key. What is refused leaves everything as it is. -/
def set (c : Config) (key value : String) : Except Settings.Error Unit × Config :=
  match c.settings.set key value with
  | .error cause => (.error cause, c)
  | .ok settings => (.ok (), { c with settings })

/-- Write a text to the file, and create the directories above it first. Directories that were
created before a failure stay. -/
def writeSource (c : Config) (t : FileTree) (text : String) :
    Except Fault Unit × FileTree :=
  let above : Except Fault FileTree := match Path.parent? c.source with
    | none => .ok t
    | some directory => t.makeDirectories directory
  match above with
  | .error fault => (.error fault, t)
  | .ok t =>
    match t.write c.source (Text.bytesOf text) with
    | .error fault => (.error fault, t)
    | .ok t => (.ok (), t)

/-- Save the settings. -/
def save (c : Config) (t : FileTree) : Except Fault Unit × FileTree :=
  c.writeSource t c.settings.toToml

/-- Save the commented defaults. -/
def saveTemplate (c : Config) (t : FileTree) : Except Fault Unit × FileTree :=
  c.writeSource t Settings.template

end Config

end Confine
