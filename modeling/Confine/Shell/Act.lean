import Confine.Shell.State
import Confine.System.Stream

set_option autoImplicit false

/-! # What shells do

An `Act` is a part of what a shell does: it works on the state of the shell, makes requests to the
system, and may end early for the reason that a `Halt` gives. Forking a shell is forking its task
with a copy of the state. -/

namespace Confine.Shell

open Confine.System (Call Work Task)

/-- A part of what a shell does. -/
abbrev Act (α : Type) : Type :=
  ExceptT Halt (StateT State Work) α

namespace Act

variable {α : Type}

/-- Do something that does not depend on the state. -/
def work (w : Work α) : Act α :=
  ExceptT.lift (StateT.lift w)

/-- Make a request. -/
def call (c : Call) : Act c.Answer :=
  work (Work.call c)

/-- Tell what is at a path. -/
def look (path : String) : Act (Except Fault System.Status) :=
  call (.look (Text.ofOctets path) true)

/-- Tell the names in a directory. -/
def namesAt (path : String) : Act (Except Fault (List String)) := do
  return (← call (.list (Text.ofOctets path))).map fun names => names.map Text.octets

/-- Open the file at a path. -/
def openAt (path : String) (how : System.Opening) : Act (Except Fault Nat) :=
  call (.openFile (Text.ofOctets path) how 0o666)

/-- Do something, and tell whether it ended early. -/
def attempt (act : Act α) : Act (Except Halt α) :=
  fun s => do
    let (result, s) ← act.run s
    return (.ok result, s)

/-- End early, or go on, in the way that something else did. -/
def resume : Except Halt α → Act α
  | .ok a => pure a
  | .error halt => throw halt

/-- Leave an outcome. -/
def leave (status : Nat) : Act Unit :=
  modify fun s => { s with status }

/-! ## Writing -/

/-- Write octets through a descriptor. It tells whether that was possible. -/
def write (descriptor : Nat) (octets : List Char) : Act Bool := do
  return (← work (Work.write descriptor (Text.toBytes octets))).toBool

/-- Have a builtin command write something to its standard output. -/
def put (octets : List Char) : Act Unit :=
  modify fun s => { s with said := octets :: s.said }

/-- Have a builtin command write a line to its standard output. -/
def say (line : String) : Act Unit :=
  put (line ++ "\n").toList

/-- Write what a builtin command has said. It tells whether that was possible. -/
def flush : Act Bool := do
  let octets := (← get).said.reverse.flatten
  modify fun s => { s with said := [] }
  if octets.isEmpty then pure true else write 1 octets

/-- Close a descriptor. -/
def close (descriptor : Nat) : Act Unit := do
  let _ ← call (.close descriptor)

/-- Have a second descriptor with a given number for the same, and close the first one. -/
def moveTo (descriptor target : Nat) : Act Unit := do
  if descriptor ≠ target then
    let _ ← call (.replace descriptor target)
    close descriptor

/-- Read octets through a descriptor to the end. -/
def readAll (descriptor : Nat) : Act (List Char) := do
  return Text.ofBytes (← work (Work.readAll descriptor)).1

/-! ## Complaining -/

/-- Complain to the standard error, after the command that is being carried out. -/
def complain (text : String) : Act Unit := do
  let s ← get
  let about := if s.context.isEmpty then text else s!"{s.context}: {text}"
  let _ ← write 2 s!"{s.self}: {s.line}: {about}\n".toList

/-- Complain and leave an outcome. -/
def refuse (text : String) (status : Nat) : Act Unit := do
  complain text
  leave status

/-- Complain and end early, for a failure. -/
def fail (text : String) : Act α := do
  complain text
  let _ ← flush
  leave 2
  throw .failure

/-- Do something and then something else, also if the first ends early. -/
def ensuring (act : Act α) (cleanup : Act Unit) : Act α := do
  let result ← attempt act
  cleanup
  resume result

/-- Work on for ever. -/
def spin : Act α :=
  work Work.spin

/-! ## Processes -/

/-- The task of a shell that does something and ends. -/
def toTask (act : Act Unit) (s : State) : Task :=
  (act.run s) fun (_, s) => .exit (s.status % 256)

/-- Forget what is done for signals, save that some are ignored. -/
def forgetTraps : Act Unit := do
  let caught := (← get).traps.filter fun entry => !entry.2.isEmpty
  modify fun s => { s with traps := s.traps.filter fun entry => entry.2.isEmpty }
  caught.forM fun entry => do
    let _ ← call (.handle entry.1 .usual)

/-- Start a process that does something with a copy of the state. -/
def fork (act : Act Unit) : Act Nat := do
  let s ← get
  let child : Act Unit := do
    forgetTraps
    act
  match ← work (Work.fork (toTask child { s with jobs := [], loops := 0, said := [] })) with
  | .ok pid => pure pid
  | .error _ => fail "Cannot fork"

/-- What a shell tells of the end of a process: the number it exited with, or one above 128 for a
signal. -/
def statusOf (report : ExitReport) : Nat :=
  match report.code, report.signal with
  | some code, _ => code.toInt.toNat
  | none, some n => 128 + n.toInt.toNat
  | none, none => 0

/-- Note how a process has ended that is not waited for at the moment. -/
def noteEnd (pid : Nat) (report : ExitReport) : Act Unit :=
  let noted (job : Job) : Job := { job with
    running := job.running.filter (· ≠ pid)
    ended := if job.pid = pid then some report else job.ended }
  modify fun s => { s with jobs := s.jobs.map noted }

/-- Note the ends of all children that have ended. The number bounds how many there are. -/
def reap : Nat → Act Unit
  | 0 => pure ()
  | bound + 1 => do
    match ← call (.wait none .none) with
    | .ok (some (pid, report)) => do
      noteEnd pid report
      reap bound
    | _ => pure ()

/-- What is said about the signal that has ended a process, unless that is usual. -/
def signalText? (report : ExitReport) : Option String :=
  match report.signal with
  | none => none
  | some n => if n = 2 ∨ n = 13 then none else some (signalText n.toInt.toNat)

/-- Wait until some children have all ended, and tell how the last of them did. What signals did
to them is said on the standard error. The number bounds how many children end before. -/
def waitAll (last : Nat) : Nat → List Nat → ExitReport → Act ExitReport
  | 0, _, report => pure report
  | _, [], report => pure report
  | bound + 1, pid :: pids, report => do
    match ← call (.wait none .untilEnd) with
    | .ok (some (ended, its)) =>
      if (pid :: pids).contains ended then
        match signalText? its with
        | some text => let _ ← write 2 (text ++ "\n").toList
        | none => pure ()
        waitAll last bound ((pid :: pids).filter (· ≠ ended)) (if ended = last then its else report)
      else
        noteEnd ended its
        waitAll last bound (pid :: pids) report
    | _ => pure report

/-- How many children are waited for at most. -/
def mostChildren : Nat := 1000000

/-- Wait for some children, and leave what the last of them tells. -/
def waitFor (pids : List Nat) : Act Nat := do
  let last := pids.getLastD 0
  return statusOf (← waitAll last mostChildren pids (.exited 0))

end Act

/-! ## Running commands inside others -/

/-- How a command is run. -/
structure Manner where
  /-- Whether its failure is looked at, and so does not end the shell. -/
  isTested : Bool := false
  /-- Whether the shell has nothing to do after it. -/
  isLast : Bool := false

/-- A program that is to be carried out. -/
structure Errand where
  /-- The name of the program. -/
  program : String
  /-- Its arguments, with the one before the first. -/
  arguments : List String
  /-- The variables that it is given. -/
  vars : List (String × String)

/-- What runs the commands inside others. -/
structure Interpreter where
  /-- Run a command. -/
  run : Manner → Command → Act Unit
  /-- Carry out a program, and give the number that it ends with. -/
  execute : Errand → Work Nat

end Confine.Shell
