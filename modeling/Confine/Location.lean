import Confine.FileTree

set_option autoImplicit false

/-! # Where things are kept

Settings are kept in one directory and what the program writes by itself in another. Each is
named by a variable of its own; failing that it stands below the user's base directory for such
things; failing that below the home directory. A variable that is empty or holds a relative
path counts as not set. -/

namespace Confine

/-- The values of variables by their names. -/
abbrev Environment := List (String × String)

/-- The directories of the program. -/
structure Location where
  /-- The directory of the settings. -/
  configDir : String
  /-- The directory of what the program writes by itself. -/
  stateDir : String
  deriving DecidableEq, Repr

namespace Location

/-- What a variable says, if it holds an absolute path. -/
def absolute? (env : Environment) (name : String) : Option String :=
  match env.lookup name with
  | some value => if Path.isAbsolute value then some value else none
  | none => none

/-- The home directory: what the variable says unless it is empty, or else the one that the
system knows for the user. -/
def home? (env : Environment) (known : Option String) : Option String :=
  match env.lookup "HOME" with
  | some value => if value.isEmpty then known else some value
  | none => known

/-- The base directory that a variable names, or else the one below the home directory. -/
def base (env : Environment) (name home : String) (below : List String) : String :=
  (absolute? env name).getD (below.foldl Path.join home)

/-- The directories for a user with this home directory, where `own` holds the variables of the
program and `env` those of the user. -/
def ofHome (own env : Environment) (home : String) : Location where
  configDir := (absolute? own "EXECBOX_CONFIG_DIR").getD
    (Path.join (base env "XDG_CONFIG_HOME" home [".config"]) "execbox")
  stateDir := (absolute? own "EXECBOX_STATE_DIR").getD
    (Path.join (base env "XDG_STATE_HOME" home [".local", "state"]) "execbox")

/-- The directories, if there is a home directory. Without one there are none, whatever else is
set. -/
def resolve? (own env : Environment) (known : Option String) : Option Location :=
  (home? env known).map (ofHome own env)

/-- The directories, with the current directory for want of a home directory. -/
def resolveOrHere (own env : Environment) (known : Option String) : Location :=
  (resolve? own env known).getD {
    configDir := [".config", "execbox"].foldl Path.join "."
    stateDir := [".local", "state", "execbox"].foldl Path.join "." }

/-- The file of the settings. -/
def configFile (l : Location) : String :=
  Path.join l.configDir "config.toml"

/-- The directory of the journal. -/
def logsDir (l : Location) : String :=
  Path.join l.stateDir "logs"

/-- The file of the journal. -/
def logFile (l : Location) : String :=
  Path.join l.logsDir "execbox.log"

/-- Create one directory and reserve it for its owner. -/
def ensureDir (t : FileTree) (path : String) : Except Fault FileTree := do
  (← t.makeDirectories path).setPermissions path 0o700

/-- Create directories and reserve them for their owner. What was created before a failure
stays; a failure names the directory. -/
def ensureAll (t : FileTree) :
    List String → Except (String × Fault) Unit × FileTree
  | [] => (.ok (), t)
  | path :: paths =>
    match ensureDir t path with
    | .ok t => ensureAll t paths
    | .error fault => (.error (path, fault), t)

/-- Create all directories and reserve them for their owner. -/
def ensureDirs (l : Location) (t : FileTree) :
    Except (String × Fault) Unit × FileTree :=
  ensureAll t [l.configDir, l.stateDir, l.logsDir]

end Location

end Confine
