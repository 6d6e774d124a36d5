import Confine.Shell.Number
import Confine.Shell.Syntax
import Confine.System.Call
import Confine.Text.Octet

set_option autoImplicit false

/-! # The state of a shell

A shell has variables, arguments, functions and options of its own. What it shares with others,
such as files and open descriptors, belongs to the system, which it reaches only by requests. All
texts here are texts of octets. -/

namespace Confine.Shell

/-- A variable. -/
structure Variable where
  /-- Its value, if it is set. -/
  value : Option String := none
  /-- Whether programs are given it. -/
  isPassedOn : Bool := false
  /-- Whether it may not be changed. -/
  isFixed : Bool := false

/-- Commands that are not waited for. -/
structure Job where
  /-- Its number among the jobs. -/
  number : Nat
  /-- The number of the process of the last command. -/
  pid : Nat
  /-- The numbers of the processes that have not ended, as far as is known. -/
  running : List Nat
  /-- How the last command has ended, if that is known. -/
  ended : Option ExitReport := none
  /-- Whether somebody has waited for its end. -/
  isWaitedFor : Bool := false

/-- Why a shell does not go on with the next command. -/
inductive Halt where
  /-- It leaves this many loops and one more. -/
  | leave (loops : Nat)
  /-- It goes on with the next round of the loop around this many others. -/
  | again (loops : Nat)
  /-- It leaves the function. -/
  | return
  /-- A command has failed in a way that ends the shell, unless it is run with care. -/
  | failure
  /-- It exits. -/
  | exit
  deriving DecidableEq

/-- The state of a shell. -/
structure State where
  /-- The name under which it speaks, which is also the argument before the first. -/
  self : String := "/bin/sh"
  /-- The builtin command that it carries out, in front of what it says. -/
  context : String := ""
  /-- The line of the command that it carries out. -/
  line : Nat := 1
  /-- The variables. -/
  vars : List (String × Variable) := []
  /-- Inside a function, the variables that are local to it as they are outside, the latest
  first. -/
  locals : Option (List (String × Option Variable)) := none
  /-- The arguments. -/
  arguments : List String := []
  /-- The functions, with the lines on which they start. -/
  functions : List (String × Nat × Command) := []
  /-- What is done for a signal; zero stands for the exit. -/
  traps : List (Nat × String) := []
  /-- The outcome of the last command. -/
  status : Nat := 0
  /-- The outcome of the last command whose output became part of a word since the current command
  began. -/
  inner : Nat := 0
  /-- The outcome that counts again after an action for a signal or for the exit. -/
  saved : Option Nat := none
  /-- The options that are on. -/
  options : List Char := []
  /-- The loops around the current command in its function. -/
  loops : Nat := 0
  /-- The functions around the current command. -/
  calls : Nat := 0
  /-- The line on which the current function starts. -/
  start : Option Nat := none
  /-- The number of the process of the whole shell. -/
  pid : Nat := 0
  /-- The number of the last process that is not waited for. -/
  lastJob : Option Nat := none
  /-- The commands that are not waited for, the earliest first. -/
  jobs : List Job := []
  /-- What a builtin command has still to write, the latest first. -/
  said : List (List Char) := []
  /-- The number of the next argument that is looked at for options. -/
  nextArgument : Nat := 1
  /-- How many characters of the argument before that one have been looked at, if it has more. -/
  lettersTaken : Option Nat := none
  /-- The words that stand for other text where a command starts. -/
  aliases : List (String × String) := []
  /-- The places of the programs that were looked for, the earliest first. -/
  places : List (String × String) := []
  /-- The path of the current directory. -/
  directory : String := "/"
  /-- The signals that it has taken up and for which nothing has been done yet. -/
  caught : List Nat := []
  /-- How many commands it has carried out since it last asked for signals. -/
  ticks : Nat := 0

namespace State

/-- The options that can be turned on, with their long names, in the order in which they are
shown. -/
def allOptions : List (Char × String) :=
  [('p', "privileged"), ('u', "nounset"), ('b', "notify"), ('a', "allexport"),
    ('C', "noclobber"), ('E', "emacs"), ('V', "vi"), ('v', "verbose"), ('x', "xtrace"), ('s', "stdin"), ('n', "noexec"),
    ('m', "monitor"), ('i', "interactive"), ('I', "ignoreeof"), ('f', "noglob"), ('e', "errexit")]

/-- Whether an option is on. -/
def has (s : State) (option : Char) : Bool :=
  s.options.contains option

/-- The state with an option turned on or off. -/
def turn (s : State) (on : Bool) (option : Char) : State :=
  let others := s.options.filter (· ≠ option)
  { s with options := if on then option :: others else others }

/-- The value of a variable, if it is set. -/
def value? (s : State) (x : String) : Option String :=
  (s.vars.lookup x).bind Variable.value

/-- Whether a variable may not be changed. -/
def isFixed (s : State) (x : String) : Bool :=
  (s.vars.lookup x).any Variable.isFixed

/-- The state with a variable changed. -/
def change (s : State) (x : String) (f : Variable → Variable) : State :=
  match s.vars.lookup x with
  | some v =>
    { s with vars := s.vars.map fun e => if e.1 == x then (x, f v) else e }
  | none => { s with vars := s.vars ++ [(x, f {})] }

/-- The state after something that depends on a variable was brought in line with its value. -/
def attuned (s : State) (x value : String) : State :=
  if x = "OPTIND" then
    { s with nextArgument := max 1 ((count? value).getD 1), lettersTaken := none }
  else if x = "PATH" then { s with places := [] }
  else s

/-- The state with a variable set. A variable that is new is not passed on to programs, unless an
option says so. -/
def assign (s : State) (x value : String) : State :=
  (s.change x fun v =>
    { v with value := some value, isPassedOn := v.isPassedOn || s.has 'a' }).attuned x value

/-- The state with a variable as it was before. -/
def restore (s : State) (x : String) : Option Variable → State
  | some v => (s.change x fun _ => v).attuned x (v.value.getD "")
  | none => { s with vars := s.vars.filter fun e => e.1 ≠ x }.attuned x ""

/-- The shelf on which something with a name is kept, of a number of shelves. What is kept is gone
through shelf by shelf. -/
def shelf (shelves : Nat) (name : String) : Nat :=
  let cs := name.toList
  cs.foldl (fun n c => n + c.toNat) (16 * (cs.head?.elim 0 Char.toNat)) % shelves

/-- Things with names, shelf by shelf. -/
def shelved {α : Type} (shelves : Nat) (things : List (String × α)) : List (String × α) :=
  things.mergeSort fun a b => decide (shelf shelves a.1 ≤ shelf shelves b.1)

/-- The variables that programs are given. -/
def passedOn (s : State) : List (String × String) :=
  shelved 39 (s.vars.filterMap fun (x, v) =>
    if v.isPassedOn then v.value.map fun value => (x, value) else none)

/-- The characters that separate fields. -/
def separators (s : State) : List Char :=
  ((s.value? "IFS").getD " \t\n").toList

/-- The value of a parameter, unless it is unset. -/
def parameter? (s : State) (parameter : String) : Option String :=
  match parameter with
  | "?" => some (toString s.status)
  | "$" => some (toString s.pid)
  | "#" => some (toString s.arguments.length)
  | "@" | "*" => if s.arguments.isEmpty then none else some (" ".intercalate s.arguments)
  | "!" => s.lastJob.map toString
  | "-" => some (String.ofList ((allOptions.map Prod.fst).filter s.has))
  | "0" => some s.self
  | "LINENO" => some (toString (s.start.elim s.line fun n => s.line + 1 - n))
  | _ =>
    match parameter.toNat? with
    | some n => s.arguments[n - 1]?
    | none => s.value? parameter

end State

end Confine.Shell
