import Confine.Program.Act
import Confine.Settings.Store

set_option autoImplicit false

/-! # Commands on settings

Showing and changing the settings, and showing the directories that the program uses. A command
that changes a setting saves all of them, and so replaces whatever else the file held. -/

namespace Confine.Program

open Act

/-- Show the settings in a form: as JSON if this is asked for by its exact name, and else as they
are saved. -/
def showSettings (c : Config) (form : String) : Act Unit :=
  print (if form = "json" then c.settings.toJson.pretty else c.settings.toToml)

/-- The result of a question about settings. -/
def ofSettings {α : Type} (result : Except Settings.Error α) : Act α :=
  match result with
  | .ok value => pure value
  | .error cause => fail cause.message

/-- Show one setting. -/
def getSetting (c : Config) (key : String) : Act Unit := do
  print (← ofSettings (c.settings.get key))

/-- Save something to files. What was created before a failure stays. -/
def save (step : FileTree → Except Fault Unit × FileTree) : Act Unit := do
  let (result, files) := step (← get).files
  modify fun s => { s with files }
  match result with
  | .ok () => pure ()
  | .error fault => fail fault.message

/-- Change one setting and save all of them. -/
def setSetting (c : Config) (key value : String) : Act Unit := do
  let settings ← ofSettings (c.settings.set key value)
  save { c with settings }.save
  print s!"Set {key} = {value}"

/-- Create the file of the settings. Only the flag permits to replace it. -/
def createSource (c : Config) (force : Bool) : Act Unit := do
  if (← get).files.exists? c.source && !force then
    fail s!"Config file already exists at {c.source}. Use --force to overwrite."
  else
    save c.saveTemplate
    print ("Created config file at " ++ c.source)

/-- The directories of the program, for a reader. -/
def pathLines (l : Location) : List String :=
  [ "execbox Paths (XDG Base Directory)",
    "==================================",
    "",
    "Config:     " ++ l.configDir,
    "  config.toml:    " ++ l.configFile,
    "",
    "State:      " ++ l.stateDir,
    "  logs:           " ++ l.logsDir,
    "  log file:       " ++ l.logFile ]

/-- Show the directories of the program. -/
def showPaths (l : Location) : Act Unit :=
  (pathLines l).forM print

end Confine.Program
