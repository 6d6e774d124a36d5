import Confine.Exit
import Confine.Fault

set_option autoImplicit false

/-! # Requests to the system

A process reaches everything outside itself by requests to the system, and each request has
answers of a type of its own. A `Task` is what a process will do: it ends, or it makes a request
and goes on in a way that depends on the answer. So a task is a tree that branches over answers,
and only the requests that are made decide how much of it is ever looked at. -/

namespace Confine.System

/-- How a file is opened. -/
structure Opening where
  /-- Whether it is read. -/
  reads : Bool := false
  /-- Whether it is written. -/
  writes : Bool := false
  /-- Whether it is created if it is not there. -/
  creates : Bool := false
  /-- Whether it has to be new. -/
  isNew : Bool := false
  /-- Whether what it holds is dropped. -/
  truncates : Bool := false
  /-- Whether everything is written at its end. -/
  appends : Bool := false

namespace Opening

/-- Opening for reading. -/
def forReading : Opening where
  reads := true

/-- Opening for writing from the start. -/
def forWriting : Opening where
  writes := true
  creates := true
  truncates := true

/-- Opening for writing at the end. -/
def forAppending : Opening where
  writes := true
  creates := true
  appends := true

end Opening

/-- What kind of thing there is. -/
inductive Kind where
  /-- A file. -/
  | file
  /-- A directory. -/
  | directory
  /-- A device. -/
  | device
  /-- A pipe. -/
  | pipe
  /-- A link to a path. -/
  | link
  deriving DecidableEq, Repr

/-- What is told about something. -/
structure Status where
  /-- Its kind. -/
  kind : Kind
  /-- Its permissions. -/
  permissions : Nat
  /-- How many bytes it holds. -/
  size : Nat
  /-- Its place, which tells it apart from everything else. -/
  place : List String
  /-- When it was changed, in milliseconds from the start of the system on. -/
  changed : Int := 0

/-- What a process does about a signal. -/
inductive Disposition where
  /-- What is usual for the signal. -/
  | usual
  /-- Nothing. -/
  | ignored
  /-- It takes it up when it asks for signals. -/
  | caught
  deriving DecidableEq, Repr

/-- Something that is limited for each process. -/
inductive Resource where
  /-- Processor time in seconds. -/
  | cpuTime
  /-- The size of files in bytes. -/
  | fileSize
  /-- Data in bytes. -/
  | data
  /-- The stack in bytes. -/
  | stack
  /-- Memory images of crashed processes in bytes. -/
  | core
  /-- Resident memory in bytes. -/
  | resident
  /-- Locked memory in bytes. -/
  | locked
  /-- Processes of a user. -/
  | processes
  /-- Open files. -/
  | files
  /-- Address space in bytes. -/
  | memory
  /-- File locks. -/
  | locks
  /-- The priority in real time. -/
  | priority
  deriving DecidableEq, Repr

/-- A limit. The soft one is in force, and can be raised up to the hard one; `none` is no
limit. -/
structure Cap where
  /-- The soft limit. -/
  soft : Option Nat := none
  /-- The hard limit. -/
  hard : Option Nat := none
  deriving DecidableEq, Repr

/-- How long a process waits for a child. -/
inductive Patience where
  /-- Not at all. -/
  | none
  /-- Until it ends. -/
  | untilEnd
  /-- Until it ends or a signal is caught. -/
  | untilSignal
  deriving DecidableEq, Repr

/-- A program that a process can become. -/
structure Image where
  /-- The name of the program. -/
  program : String
  /-- The arguments that stand before the first of its own, in place of the one before that; none
  if nothing is put in place of it. -/
  front : List String := []
  deriving DecidableEq, Repr

/-- A request. -/
inductive Call where
  /-- Read up to some bytes through a descriptor. None are read at the end. -/
  | read (descriptor count : Nat)
  /-- Write bytes through a descriptor. It tells how many were written. -/
  | write (descriptor : Nat) (bytes : List UInt8)
  /-- Go back by some bytes in the file behind a descriptor, if it is one. -/
  | goBack (descriptor count : Nat)
  /-- Open the file at a path, with these permissions if it is new. -/
  | openFile (path : String) (how : Opening) (permissions : Nat)
  /-- Close a descriptor. -/
  | close (descriptor : Nat)
  /-- Have a second descriptor for the same, the first free one from a number on. The flag tells
  whether it is closed when the process becomes another program. -/
  | duplicate (descriptor least : Nat) (closes : Bool)
  /-- Have a second descriptor for the same with a given number. -/
  | replace (descriptor target : Nat)
  /-- Make a pipe: the descriptor to read from and the one to write to. -/
  | pipe
  /-- Wait for a child, or for any, to end, and tell how it has ended if it has. -/
  | wait (pid : Option Nat) (how : Patience)
  /-- Send a signal to a process. -/
  | signal (pid : Int) (number : Nat)
  /-- Say what to do about a signal. It tells what was done before. -/
  | handle (number : Nat) (how : Disposition)
  /-- Take up the signals that were caught. -/
  | caught
  /-- Sleep for some milliseconds. -/
  | sleep (milliseconds : Nat)
  /-- Tell the time in milliseconds. -/
  | clock
  /-- Tell the current directory. -/
  | directory
  /-- Have another current directory. -/
  | changeDirectory (path : String)
  /-- Tell the permissions that new files do not get, and change them. -/
  | mask (new : Option Nat)
  /-- Tell a limit. -/
  | cap (resource : Resource)
  /-- Change a limit. -/
  | setCap (resource : Resource) (cap : Cap)
  /-- Tell what is at a path: what a link there leads to, or the link itself. -/
  | look (path : String) (whole : Bool)
  /-- Tell the path that a link leads to. -/
  | readLink (path : String)
  /-- Make a link to a path. -/
  | makeLink (target path : String)
  /-- Say when something was changed. -/
  | setTime (path : String) (time : Int)
  /-- Tell the names in a directory. -/
  | list (path : String)
  /-- Make a directory. -/
  | makeDirectory (path : String) (permissions : Nat)
  /-- Remove an empty directory. -/
  | removeDirectory (path : String)
  /-- Remove what is no directory. -/
  | remove (path : String)
  /-- Give something another path, in place of what is there. -/
  | rename (source target : String)
  /-- Change permissions. -/
  | permit (path : String) (permissions : Nat)
  /-- Tell the number of the process. -/
  | self
  /-- Tell the number of the process that started it. -/
  | parent
  /-- Become the program in a file: forget about caught signals, and close what is to be closed. -/
  | become (path : String)
  /-- Work on for ever. -/
  | spin

/-- The type of the answers to a request. -/
@[reducible] def Call.Answer : Call → Type
  | .read _ _ => Except Fault (List UInt8)
  | .write _ _ => Except Fault Nat
  | .goBack _ _ => Unit
  | .openFile _ _ _ => Except Fault Nat
  | .close _ => Except Fault Unit
  | .duplicate _ _ _ => Except Fault Nat
  | .replace _ _ => Except Fault Unit
  | .pipe => Except Fault (Nat × Nat)
  | .wait _ _ => Except Fault (Option (Nat × ExitReport))
  | .signal _ _ => Except Fault Unit
  | .handle _ _ => Disposition
  | .caught => List Nat
  | .sleep _ => Unit
  | .clock => Nat
  | .directory => String
  | .changeDirectory _ => Except Fault Unit
  | .mask _ => Nat
  | .cap _ => Cap
  | .setCap _ _ => Except Fault Unit
  | .look _ _ => Except Fault Status
  | .readLink _ => Except Fault String
  | .makeLink _ _ => Except Fault Unit
  | .setTime _ _ => Except Fault Unit
  | .list _ => Except Fault (List String)
  | .makeDirectory _ _ => Except Fault Unit
  | .removeDirectory _ => Except Fault Unit
  | .remove _ => Except Fault Unit
  | .rename _ _ => Except Fault Unit
  | .permit _ _ => Except Fault Unit
  | .self => Nat
  | .parent => Nat
  | .become _ => Except Fault Image
  | .spin => Unit

/-- What a process will do. -/
inductive Task where
  /-- It ends with a number. -/
  | exit (status : Nat)
  /-- It makes a request, and goes on with the answer. -/
  | call (c : Call) (resume : c.Answer → Task)
  /-- It starts a child like itself that does something else, and goes on with its number. -/
  | fork (child : Task) (resume : Except Fault Nat → Task)

instance : Inhabited Task := ⟨.exit 0⟩

/-- A part of what a process does, which gives a value to the part after it. -/
def Work (α : Type) : Type :=
  (α → Task) → Task

namespace Work

variable {α β : Type}

instance : Monad Work where
  pure a := fun next => next a
  bind work f := fun next => work fun a => f a next

/-- Make a request. -/
def call (c : Call) : Work c.Answer :=
  fun next => .call c next

/-- Start a child. -/
def fork (child : Task) : Work (Except Fault Nat) :=
  fun next => .fork child next

/-- End the process. -/
def exit (status : Nat) : Work α :=
  fun _ => .exit status

/-- The task that does a part and ends with the number that it gives. -/
def toTask (work : Work Nat) : Task :=
  work .exit

end Work

end Confine.System
