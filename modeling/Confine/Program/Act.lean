import Confine.Code.Attempt
import Confine.FileTree
import Confine.Log.Line
import Confine.Sandbox.Error
import Confine.Sandbox.Native

set_option autoImplicit false

/-! # Acts

An `Act` is a piece of a run of the program. It works on a `Scene`, which holds the files and
everything that was said so far, and it ends with a value or with the `Failure` that ends the
run. What was said and done before a failure stays. Commands that the program has started may go on
after it. -/

namespace Confine.Program

/-- One thing that was said. -/
inductive Entry where
  /-- Bytes for the standard output. -/
  | output (bytes : List UInt8)
  /-- Bytes for the standard error. -/
  | notice (bytes : List UInt8)
  /-- An event for the journal. -/
  | event (event : Event)
  deriving DecidableEq

/-- How the journal is shown. -/
structure Logger where
  /-- Which events are shown. -/
  filter : Log.Filter
  /-- The form of the lines. -/
  format : Log.Format
  /-- The file that the lines go to, instead of the standard error. -/
  file : Option String
  deriving DecidableEq, Repr

/-- What a run works on. -/
structure Scene where
  /-- The files. -/
  files : FileTree
  /-- What was said, in order. -/
  transcript : List Entry := []
  /-- How the journal is shown, once that has been settled. -/
  logger : Option Logger := none
  /-- The host of commands that may still be at work. -/
  host : Option Sandbox.Host := none

/-- Why a run failed. -/
structure Failure where
  /-- What went wrong. -/
  message : String
  /-- What lies behind it, the nearest cause first. -/
  causes : List String := []
  deriving DecidableEq, Repr

namespace Failure

/-- The failure of the code layer. -/
def ofCode (e : Code.Error) : Failure :=
  ⟨e.message, e.causes⟩

/-- The failure of a sandbox. -/
def ofSandbox (e : Sandbox.Error) : Failure :=
  ⟨e.message, e.causes⟩

/-- The failure of an operation on files, which `message` describes. -/
def ofFault (message : String) (fault : Fault) : Failure :=
  ⟨message, [fault.message]⟩

/-- The failure of something larger because of this failure. -/
def within (f : Failure) (message : String) : Failure :=
  ⟨message, f.message :: f.causes⟩

/-- The lines of one cause: the first starts with a mark, the others with as many blanks. -/
def causeLines (mark cause : String) : List String :=
  let blank := String.ofList (List.replicate mark.length ' ')
  match Text.splitWhere (· == '\n') cause.toList with
  | [] => [mark]
  | first :: rest =>
    (mark ++ String.ofList first) :: rest.map fun line => blank ++ String.ofList line

/-- The lines of several causes, which are numbered. -/
def numberedLines (n : Nat) : List String → List String
  | [] => []
  | cause :: rest => causeLines s!"    {n}: " cause ++ numberedLines (n + 1) rest

/-- The lines that tell a failure. A single cause is not numbered. -/
def lines (f : Failure) : List String :=
  let causes := match f.causes with
    | [] => []
    | [cause] => ["", "Caused by:"] ++ causeLines "    " cause
    | causes => ["", "Caused by:"] ++ numberedLines 0 causes
  ("Error: " ++ f.message) :: causes

end Failure

/-- A piece of a run. -/
abbrev Act (α : Type) := ExceptT Failure (StateM Scene) α

namespace Act

/-- Say things. -/
def say (entries : List Entry) : Act Unit :=
  modify fun s => { s with transcript := s.transcript ++ entries }

/-- Print a line on the standard output. -/
def print (line : String) : Act Unit :=
  say [.output (Text.bytesOf (line ++ "\n"))]

/-- Print a line on the standard error. -/
def notice (line : String) : Act Unit :=
  say [.notice (Text.bytesOf (line ++ "\n"))]

/-- Note events in the journal. -/
def note (events : List Event) : Act Unit :=
  say (events.map .event)

/-- End the run. -/
def fail {α : Type} (message : String) : Act α :=
  throw { message }

/-- Do a piece of work of the code layer. -/
def attempt {α : Type} (a : Code.Attempt α) : Act α := do
  note a.events
  match a.result with
  | .ok value => pure value
  | .error cause => throw (.ofCode cause)

/-- Do something as a part of something larger, which `message` describes if it fails. -/
def within {α : Type} (message : String) (act : Act α) : Act α :=
  tryCatch act fun f => throw (f.within message)

/-- Look at the files; `message` describes the failure. -/
def look {α : Type} (message : String) (question : FileTree → Except Fault α) :
    Act α := do
  match question (← get).files with
  | .ok value => pure value
  | .error fault => throw (.ofFault message fault)

/-- Change the files; `message` describes the failure. -/
def change (message : String) (step : FileTree → Except Fault FileTree) :
    Act Unit := do
  let files ← look message step
  modify fun s => { s with files }

/-- Write bytes to a file, or to what the program writes to itself; `message` describes the
failure. -/
def writeFile (message path : String) (bytes : List UInt8) : Act Unit := do
  match ← look message fun files => files.target path with
  | .device (.descriptor 1) => say [.output bytes]
  | .device (.descriptor 2) => say [.notice bytes]
  | _ => change message fun files => files.write path bytes

end Act

end Confine.Program
