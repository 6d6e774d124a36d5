import Confine.Shell.Builtin.Variable
import Confine.Shell.Run

set_option autoImplicit false

/-! # Starting a shell

A shell is started with arguments that tell it what to run: a text, the text in a file, or what it
can read from its standard input. Its variables are those that it is given, and a few that every
shell has. -/

namespace Confine.Shell

open Act
open Confine.System (Work)

/-! ## Variables -/

/-- The variables that every shell has, unless it is given others. -/
def usualVariables : List (String × String) :=
  [("IFS", " \t\n"), ("OPTIND", "1"), ("PATH", usualPath), ("PS1", "# "), ("PS2", "> "),
    ("PS4", "+ ")]

/-- The variables that are the shell's own whatever it is given. -/
def ownVariables : List String := ["IFS", "OPTIND", "PPID"]

/-- Give the state the variables with which a shell starts. -/
def takeVariables (given : List (String × String)) : Act Unit := do
  usualVariables.forM fun (x, value) => modify fun s => s.assign x value
  let pid ← call .self
  let parent ← call .parent
  modify fun s => { s.assign "PPID" (toString parent) with pid }
  given.forM fun (x, value) =>
    if isName x ∧ !ownVariables.contains x then
      modify fun s => s.change x fun _ => { value := some value, isPassedOn := true }
    else pure ()
  let here := Text.octets (← call .directory)
  let known := ((← get).value? "PWD").getD ""
  let isHere ← if known.startsWith "/" then do
      let there ← look known
      let here ← look "."
      pure (match there, here with
        | .ok a, .ok b => a.place == b.place
        | _, _ => false)
    else pure false
  let directory := if isHere then known else here
  let place (_ : Variable) : Variable := { value := some directory, isPassedOn := true }
  modify fun s => { s.change "PWD" place with directory }

/-! ## Arguments -/

/-- Set the options in front of the arguments with which a shell is started. It gives the other
arguments, and whether the first of them is a text to run. The number bounds how many there are. -/
def takeSettings : Nat → Bool → List String → Act (Bool × List String)
  | 0, isText, args => pure (isText, args)
  | _, isText, [] => pure (isText, [])
  | bound + 1, isText, a :: args => do
    let letters (on : Bool) (cs : List Char) : Act (Bool × List String) := do
      let args ← setLetters on (cs.filter fun c => c ≠ 'c' ∧ c ≠ 'l') args
      takeSettings bound (isText || cs.contains 'c') args
    match a.toList with
    | ['-'] | ['-', '-'] => pure (isText, args)
    | '-' :: cs => letters true cs
    | '+' :: cs => letters false cs
    | _ => pure (isText, a :: args)

/-- Run a text line by line, and then do what is to be done at the exit. -/
def runWhole (i : Interpreter) (isLast : Bool) (text : String) : Act Unit := do
  match ← attempt (runText i { isLast } text) with
  | .ok () | .error _ => atExit i

/-- Read the file that a shell is to run. -/
def readScript (path : String) : Act String := do
  match ← openAt path .forReading with
  | .error fault => fail s!"cannot open {path}: {faultText false fault}"
  | .ok n =>
    let octets ← readAll n
    close n
    pure (String.ofList octets)

/-- Run what a shell is started for. -/
def runInvocation (i : Interpreter) (args : List String) : Act Unit := do
  modify fun s => { s with line := 0 }
  let (isText, args) ← takeSettings (args.length + 1) false args
  let _ ← flush
  let arguments (args : List String) : Act Unit := modify fun s => { s with arguments := args }
  let names (name : String) (args : List String) : Act Unit :=
    modify fun s => { s with self := name, arguments := args }
  match isText, args with
  | true, [] => fail "-c requires an argument"
  | true, [text] =>
    arguments []
    runWhole i (!(← get).has 's') text
  | true, text :: name :: args =>
    names name args
    runWhole i (!(← get).has 's') text
  | false, args =>
    if args.isEmpty || (← get).has 's' then
      arguments args
      modify fun s => s.turn true 's'
      runWhole i false (String.ofList (← readAll 0))
    else
      let path := args.headD ""
      let text ← readScript path
      names path (args.drop 1)
      runWhole i false text

/-- Do what a shell is started for, and give the number that it ends with. -/
def perform (i : Interpreter) (e : Errand) : Work Nat := do
  let whole : Act Unit := do
    takeVariables e.vars
    runInvocation i (e.arguments.drop 1)
  let (_, s) ← whole.run { self := e.arguments.headD "sh" }
  return s.status % 256

end Confine.Shell
