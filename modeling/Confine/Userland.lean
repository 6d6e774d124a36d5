import Confine.Shell.Invocation
import Confine.System.Request
import Confine.Tool.Table

set_option autoImplicit false

/-! # What programs there are

Every process is a program, a shell or a tool, which can become another one. Here the two meet: a
shell runs what its commands name, and tools run the programs in their arguments. The files of the
programs are where shells look for them. -/

namespace Confine.Userland

open Confine.Shell (Errand Interpreter State)
open Confine.System (Task Work)

/-! ## Becoming a program -/

/-- End in a crash. -/
def crash {α : Type} : Work α :=
  fun _ => .call .self fun pid => .call (.signal pid 11) fun _ => .exit 0

/-- The names of the programs that are shells. -/
def shells : List String := ["sh", "dash", "bash"]

/-- What is said when the library of a program cannot be loaded. -/
def unlinked (name cause : String) : String :=
  s!"{name}: error while loading shared libraries: libc.so.6: {cause}\n"

/-- Why the library cannot be loaded if a file cannot be opened. -/
def unopened : String := "cannot open shared object file: Error 24"

/-- Load the library of a program. It tells whether that was possible, which takes a descriptor that
is free. -/
def load (name : String) : Work Bool := do
  match ← Work.call (.openFile "/dev/null" .forReading 0) with
  | .ok n =>
    let _ ← Work.call (.close n)
    pure true
  | .error _ =>
    let _ ← Work.write 2 (Text.toBytes (unlinked name unopened).toList)
    pure false

/-- Become the program at a path, which a shell reads if it is a text without a mark. -/
def becomeAt (execute : Errand → Work Nat) (vars : List (String × String)) (path : String)
    (argv : List String) : Work (Except Fault Nat) := do
  match ← Work.call (.become (Text.ofOctets path)) with
  | .ok image =>
    let front := image.front.map Text.octets
    let arguments := if front.isEmpty then argv else front ++ argv.drop 1
    return .ok (← execute { program := image.program, arguments, vars })
  | .error .badFormat =>
    match ← Work.call (.become Shell.shellPath) with
    | .ok image =>
      let arguments := Shell.shellPath :: path :: argv.drop 1
      return .ok (← execute { program := image.program, arguments, vars })
    | .error fault => return .error fault
  | .error fault => return .error fault

/-- Become the first program in some directories that can be run. -/
def becomeFirst (execute : Errand → Work Nat) (vars : List (String × String))
    (argv : List String) : List String → Fault → Work (Except Fault Nat)
  | [], fault => pure (.error fault)
  | directory :: rest, fault => do
    let name := argv.headD ""
    let path := if directory.isEmpty then name else directory ++ "/" ++ name
    match ← becomeAt execute vars path argv with
    | .ok status => pure (.ok status)
    | .error .denied => becomeFirst execute vars argv rest .denied
    | .error .notFound | .error .notDirectory => becomeFirst execute vars argv rest fault
    | .error fault => pure (.error fault)

/-- The directories in which tools look for programs unless a variable names others. -/
def usualDirectories : String := "/bin:/usr/bin"

/-- Become the program with a name. -/
def becomeNamed (execute : Errand → Work Nat) (vars : List (String × String))
    (argv : List String) : Work (Except Fault Nat) :=
  let name := argv.headD ""
  if name.isEmpty then pure (.error .notFound)
  else if name.toList.contains '/' then becomeAt execute vars name argv
  else
    let path := (vars.lookup "PATH").getD usualDirectories
    becomeFirst execute vars argv (Shell.programDirectories path) .notFound

/-- Carry out a program. -/
def carryOut (i : Interpreter) (e : Errand) : Work Nat := do
  let name := e.arguments.headD ""
  if ← load name then
    if shells.contains e.program then Shell.perform i e
    else
      match Tool.table.lookup e.program with
      | none => pure 127
      | some tool =>
        tool {
          name, arguments := e.arguments.drop 1, vars := e.vars
          become := becomeNamed i.execute }
  else pure 127

/-! ## Interpreters -/

/-- The interpreter that follows commands down to a depth, and crashes below. -/
def interpreter : Nat → Interpreter
  | 0 => { run := fun _ _ => Shell.Act.work crash, execute := fun _ => crash }
  | depth + 1 => {
      run := fun m c => Shell.runCommand (interpreter depth) m c
      execute := fun e => carryOut (interpreter depth) e }

/-- How deep commands are followed. -/
def mostDepth : Nat := 100000

/-- The task of a shell that runs a text. -/
def shellTask (text : String) (vars : List (String × String)) : Task :=
  ((interpreter mostDepth).execute {
    program := "sh", arguments := [Shell.shellPath, "-c", text], vars }).toTask

/-! ## The files of the system -/

/-- The file of a program. -/
def programFile (name : String) : FileTree.Node :=
  .file 0o755 (System.imageMark ++ name.toUTF8.toList)

/-- The files of all programs. -/
def programFiles : FileTree.Entries :=
  (shells ++ Tool.table.map Prod.fst).map fun name => (name, programFile name)

/-- A directory that anybody can look into. -/
def directory (entries : FileTree.Entries) : FileTree.Node :=
  .directory 0o755 entries

/-- The devices. -/
def devices : FileTree.Entries :=
  let standard (n : Nat) : FileTree.Node := .device (.descriptor n)
  [ ("null", .device .null), ("zero", .device .zero), ("full", .device .full),
    ("tty", .device .terminal), ("stdin", standard 0), ("stdout", standard 1),
    ("stderr", standard 2),
    ("fd", directory ((List.range 10).map fun n => (toString n, standard n))) ]

/-- The files of a system on which nobody has done anything yet. -/
def files : FileTree :=
  let programs := directory programFiles
  { root :=
      [ ("bin", programs), ("dev", directory devices), ("etc", directory []),
        ("home", directory []), ("lib", directory []), ("proc", directory []),
        ("root", .directory 0o700 []), ("sbin", programs), ("tmp", .directory 0o1777 []),
        ("usr", directory [ ("bin", programs), ("lib", directory []), ("sbin", programs),
          ("local", directory [("bin", directory []), ("sbin", directory [])]) ]),
        ("var", directory [("tmp", .directory 0o1777 [])]) ] }

end Confine.Userland
