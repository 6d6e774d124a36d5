import Confine.FileTree
import Confine.System.Call

set_option autoImplicit false

/-! # Processes

A `System` is everything that processes share: the files, the time, the pipes, and what was written
to the outside. A process has numbers for what it has open. Such a number leads to a description,
which several numbers may share, also those of different processes: they read and write at one
common position. -/

namespace Confine

namespace System

/-- What a description is about. -/
inductive Channel where
  /-- The file at a place. -/
  | file (place : List String)
  /-- A file that has no place any more. -/
  | orphan (bytes : List UInt8)
  /-- The directory at a place. -/
  | directory (place : List String)
  /-- A device. -/
  | device (d : FileTree.Device)
  /-- The pipe with a number. -/
  | pipe (number : Nat)
  /-- The standard output of the whole system, or its standard error. -/
  | output (toError : Bool)
  deriving DecidableEq, Repr

/-- What processes share that have the same thing open. -/
structure Description where
  /-- Its number. -/
  number : Nat
  /-- What it is about. -/
  channel : Channel
  /-- Whether it can be read. -/
  reads : Bool
  /-- Whether it can be written. -/
  writes : Bool
  /-- Whether everything is written at the end. -/
  appends : Bool := false
  /-- The position in a file. -/
  offset : Nat := 0

/-- What a number of a process leads to. -/
structure Slot where
  /-- The number, which is called a descriptor. -/
  descriptor : Nat
  /-- The number of the description. -/
  description : Nat
  /-- Whether it is closed when the process becomes another program. -/
  closes : Bool := false

/-- A process. -/
structure Process where
  /-- Its number. -/
  pid : Nat
  /-- The number of the process that started it. -/
  parent : Nat
  /-- What it will do. -/
  task : Task
  /-- What it has open. -/
  slots : List Slot := []
  /-- The place of its current directory. -/
  directory : List String := []
  /-- The permissions that new files do not get. -/
  mask : Nat := 0o022
  /-- Its limits, as far as they are not the usual ones. -/
  caps : List (Resource × Cap) := []
  /-- What it does about signals, where that is not the usual. -/
  dispositions : List (Nat × Disposition) := []
  /-- The signals that it has still to take up. -/
  pending : List Nat := []
  /-- When its sleep ends. -/
  wakes : Option Nat := none
  /-- How much it has done since the time last moved. -/
  effort : Nat := 0
  /-- Whether it works on for ever. -/
  spins : Bool := false
  /-- Whether a signal has stopped it. -/
  stopped : Bool := false
  /-- How it has ended, if it has. -/
  ended : Option ExitReport := none

end System

/-- What processes share. -/
structure System where
  /-- The time in milliseconds. -/
  now : Nat := 0
  /-- The files. -/
  files : FileTree := {}
  /-- When what is at a place was changed, where that was after the start. -/
  times : List (List String × Int) := []
  /-- The processes, in the order of their start. Those that have ended stay until they are waited
  for. -/
  processes : List System.Process := []
  /-- What is open. -/
  descriptions : List System.Description := []
  /-- What is in each pipe. -/
  pipes : List (Nat × List UInt8) := []
  /-- The number of the next description or pipe. -/
  fresh : Nat := 0
  /-- The number of the process outside that owns the first processes. -/
  owner : Nat := 4000
  /-- The number of the next process. -/
  nextPid : Nat := 4010
  /-- What was written to the outside, the latest first; the flag tells the standard error. -/
  written : List (Bool × List UInt8) := []
  /-- The signals to the owner with their times, the latest first. -/
  signals : List (Nat × Nat) := []

namespace System

/-- The largest number of open files that any limit can be. -/
def mostFiles : Nat := 1048576

/-- The limits that processes have unless these are changed. -/
def usualCap : Resource → Cap
  | .stack => { soft := some (8192 * 1024) }
  | .locked => { soft := some (8192 * 1024), hard := some (8192 * 1024) }
  | .core => { soft := some 0 }
  | .priority => { soft := some 0, hard := some 0 }
  | .files => { soft := some mostFiles, hard := some mostFiles }
  | _ => {}

/-- A limit of a process. -/
def Process.cap (p : Process) (r : Resource) : Cap :=
  (p.caps.lookup r).getD (usualCap r)

/-- The process with a limit changed. -/
def Process.withCap (p : Process) (r : Resource) (c : Cap) : Process :=
  { p with caps := (r, c) :: p.caps.filter fun e => e.1 ≠ r }

/-- What a process does about a signal. -/
def Process.disposition (p : Process) (n : Nat) : Disposition :=
  (p.dispositions.lookup n).getD .usual

/-- The process with something else to do about a signal. -/
def Process.withDisposition (p : Process) (n : Nat) (d : Disposition) : Process :=
  { p with dispositions := (n, d) :: p.dispositions.filter fun e => e.1 ≠ n }

/-- Whether a process is there and has not ended. -/
def Process.isAlive (p : Process) : Bool :=
  p.ended.isNone

/-- The process with a number. -/
def process? (s : System) (pid : Nat) : Option Process :=
  s.processes.find? fun p => p.pid == pid

/-- The system with a process changed. -/
def update (s : System) (pid : Nat) (f : Process → Process) : System :=
  { s with processes := s.processes.map fun p => if p.pid = pid then f p else p }

/-! ## What is open -/

/-- The description that a descriptor of a process leads to. -/
def description? (s : System) (p : Process) (descriptor : Nat) : Option Description := do
  let slot ← p.slots.find? fun slot => slot.descriptor == descriptor
  s.descriptions.find? fun d => d.number == slot.description

/-- The system with a description changed. -/
def redescribe (s : System) (d : Description) : System :=
  { s with descriptions := s.descriptions.map fun e => if e.number = d.number then d else e }

/-- The system without the descriptions that nothing leads to any more, and without the pipes that
no description is about. -/
def collect (s : System) : System :=
  let inUse (n : Nat) : Bool :=
    s.processes.any fun p => p.slots.any fun slot => slot.description == n
  let descriptions := s.descriptions.filter fun d => inUse d.number
  { s with
    descriptions
    pipes := s.pipes.filter fun pipe => descriptions.any fun d => d.channel == .pipe pipe.1 }

/-- Whether anybody has a pipe open to read from it, or to write to it. -/
def isHeld (s : System) (pipe : Nat) (toRead : Bool) : Bool :=
  s.descriptions.any fun d => d.channel == .pipe pipe && (if toRead then d.reads else d.writes)

/-- Whether any process can still write to the outside. -/
def isHeard (s : System) : Bool :=
  s.descriptions.any fun d => match d.channel with
    | .output _ => true
    | _ => false

/-- The first number from the given one on that a process has not in use. -/
def freeFrom (p : Process) (least : Nat) : Nat :=
  let used := p.slots.map Slot.descriptor
  ((List.range (used.length + 1)).find? fun n => !used.contains (least + n)).elim least (least + ·)

/-- Whether a number is below the limit of a process on open files. -/
def fits (p : Process) (descriptor : Nat) : Bool :=
  (p.cap .files).soft.all fun most => decide (descriptor < most)

/-- The system after a process has got a description of its own, and the descriptor for it. -/
def openFor (s : System) (p : Process) (d : Description) : Except Fault Nat × System :=
  let free := freeFrom p 0
  if !fits p free then (.error .tooManyFiles, s)
  else
    let s := { s with
      fresh := s.fresh + 1
      descriptions := { d with number := s.fresh } :: s.descriptions }
    (.ok free, s.update p.pid fun p => { p with slots := ⟨free, s.fresh - 1, false⟩ :: p.slots })

/-- The system after a process has closed a descriptor. -/
def closeFor (s : System) (pid descriptor : Nat) : System :=
  let without (p : Process) : Process :=
    { p with slots := p.slots.filter fun slot => slot.descriptor ≠ descriptor }
  (s.update pid without).collect

/-! ## Ends of processes -/

/-- The system after a process has ended. What it had open is closed, its children have no parent
any more, and those of them that have ended are gone. -/
def finish (s : System) (pid : Nat) (report : ExitReport) : System :=
  let ended (p : Process) : Process :=
    if p.pid = pid then
      { p with ended := some report, slots := [], wakes := none, task := .exit 0 }
    else if p.parent = pid then { p with parent := 0 }
    else p
  let kept (p : Process) : Bool := p.isAlive || p.parent ≠ 0
  { s with processes := (s.processes.map ended).filter kept }.collect

/-- The system after the end of the owner of the first processes. -/
def disown (s : System) : System :=
  let left (p : Process) : Process := if p.parent = s.owner then { p with parent := 0 } else p
  let kept (p : Process) : Bool := p.isAlive || p.parent ≠ 0
  { s with owner := 0, processes := (s.processes.map left).filter kept }

end System

end Confine
