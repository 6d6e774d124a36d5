import Confine.Shell.Act
import Confine.Shell.Builtin.Basic
import Confine.Shell.Builtin.Alias
import Confine.Shell.Reader

set_option autoImplicit false

/-! # What names stand for

A name that starts a command can be a function, a builtin command or a program, and is looked for
in this order. Programs are looked for in the directories of a variable, and the shell remembers
where it has found them. -/

namespace Confine.Shell

open Act

/-- The builtin commands that are not special. -/
def regularCommands : List String :=
  ["[", "alias", "bg", "cd", "chdir", "command", "echo", "false", "fg", "getopts", "hash", "jobs",
    "kill", "printf", "pwd", "read", "test", "true", "type", "ulimit", "umask", "unalias", "wait"]

/-- Whether a name is that of a builtin command. -/
def isBuiltin (name : String) : Bool :=
  specialCommands.contains name || regularCommands.contains name

/-- The special commands whose arguments can be assignments. -/
def assigningCommands : List String := ["export", "local", "readonly"]

/-- What a name stands for as a command. -/
inductive Known where
  /-- A function, which starts on a line. -/
  | function (line : Nat) (body : Command)
  /-- A builtin command. -/
  | builtin
  /-- The program at a path. -/
  | program (path : String)
  /-- Nothing, for a reason. -/
  | missing (fault : Fault)

/-- The wording of a fault in front of a program. -/
def programFault (fault : Fault) : String :=
  if fault = .notFound ∨ fault = .notDirectory then "not found" else fault.text

/-- Look for a program in some directories. -/
def findIn (name : String) : List String → Fault → Act (Except Fault String)
  | [], fault => pure (.error fault)
  | directory :: rest, fault => do
    let path := if directory.isEmpty then name else directory ++ "/" ++ name
    match ← look path with
    | .ok status => if status.kind = .file then pure (.ok path) else findIn name rest .denied
    | .error .notFound | .error .notDirectory => findIn name rest fault
    | .error other => findIn name rest other

/-- The directories in which programs are looked for. -/
def programDirectories (path : String) : List String :=
  (path.toList.splitOn ':').map String.ofList

/-- The directories in which programs are looked for unless a variable says otherwise. -/
def usualPath : String :=
  "/usr/local/sbin:/usr/local/bin:/usr/sbin:/usr/bin:/sbin:/bin"

/-- Look for a program in the directories of a path, by default those of the variable, where its
place is remembered. -/
def findProgram (name : String) (path : Option String) : Act Known := do
  let s ← get
  match if path.isNone then s.places.lookup name else none with
  | some place => pure (.program place)
  | none =>
    let directories := programDirectories (path.getD ((s.value? "PATH").getD ""))
    match ← findIn name directories .notFound with
    | .error fault => pure (.missing fault)
    | .ok place =>
      if path.isNone then modify fun s => { s with places := s.places ++ [(name, place)] }
      pure (.program place)

/-- Find out what a name stands for. The flag tells whether functions count. -/
def find (withFunctions : Bool) (name : String) (path : Option String := none) : Act Known := do
  if name.toList.contains '/' then return .program name
  let s ← get
  let functions := if withFunctions then s.functions else []
  match functions.lookup name with
  | some (line, body) => return .function line body
  | none => if isBuiltin name then return .builtin else findProgram name path

/-! ## Telling -/

/-- Tell what a name stands for: in words, or only by what is run. -/
def describe (inWords : Bool) (path : Option String) (name : String) : Act Nat := do
  let tell (words text : String) : Act Nat := do
    say (if inWords then name ++ words else text)
    pure 0
  let s ← get
  if keywords.contains name then tell " is a shell keyword" name
  else
    match s.aliases.lookup name with
    | some value =>
      if inWords then tell s!" is an alias for {value}" ""
      else
        put "alias ".toList
        showAlias name value
        pure 0
    | none =>
      let isRemembered := path.isNone && (s.places.lookup name).isSome
      let missing : Act Nat := do
        if inWords then say (name ++ ": not found")
        pure 127
      match ← find true name path with
      | .function _ _ => tell " is a shell function" name
      | .builtin =>
        let special := if specialCommands.contains name then "special " else ""
        tell s!" is a {special}shell builtin" name
      | .program place =>
        match ← look place with
        | .error _ => missing
        | .ok _ =>
          if !isRemembered then modify fun t => { t with places := s.places }
          let what := if isRemembered then "a tracked alias for " else ""
          tell s!" is {what}{place}" place
      | .missing _ => missing

/-- The command `type`. -/
def type : Builtin := fun args => do
  return (← args.mapM (describe true none)).foldl max 0

/-- The command `hash`. -/
def hash : Builtin := fun args => do
  let (chosen, names) ← options "r" args
  if !chosen.isEmpty then
    modify fun s => { s with places := [] }
    pure 0
  else if names.isEmpty then
    (State.shelved 31 (← get).places).forM fun (_, place) => say place
    pure 0
  else
    let outcomes ← names.mapM fun name => do
      modify fun s => { s with places := s.places.filter fun e => e.1 ≠ name }
      match ← find true name with
      | .missing fault =>
        complain s!"{name}: {programFault fault}"
        pure 1
      | _ => pure 0
    return outcomes.foldl max 0

end Confine.Shell
