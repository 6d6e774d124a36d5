import Confine.Limits
import Confine.Mode

set_option autoImplicit false

/-! # Requests to run a command

What a user may say about a run, and how it is completed from the defaults in force: each thing
that is said wins over its default, one by one. -/

namespace Confine.Sandbox

/-- The defaults for sandboxes. -/
structure Defaults where
  /-- The isolation mode. -/
  mode : Mode := .none
  /-- The limits for commands. -/
  limits : Limits := {}
  /-- The interval between two looks at a command, in milliseconds. -/
  pollInterval : UInt64 := 100
  deriving DecidableEq, Repr

/-- A command to run, and what is said about the run. -/
structure Request where
  /-- The command. -/
  command : String
  /-- The isolation mode. -/
  mode : Option Mode := none
  /-- The cap on address space in bytes. -/
  maxMemory : Option UInt64 := none
  /-- The cap on processor time in milliseconds. -/
  maxCpuTime : Option UInt64 := none
  /-- The cap on open files. -/
  maxFiles : Option UInt32 := none
  /-- The cap on processes. -/
  maxProcesses : Option UInt32 := none
  /-- The interval between two looks, in milliseconds. -/
  pollInterval : Option UInt64 := none
  /-- Whether the summary is to be written as JSON. -/
  json : Bool := false
  deriving DecidableEq, Repr

namespace Request

/-- The mode of the run. -/
def resolveMode (r : Request) (d : Defaults) : Mode :=
  r.mode.getD d.mode

/-- The limits of the run. -/
def resolveLimits (r : Request) (d : Defaults) : Limits where
  maxMemory := r.maxMemory.getD d.limits.maxMemory
  maxCpuTime := r.maxCpuTime.getD d.limits.maxCpuTime
  maxFiles := r.maxFiles.getD d.limits.maxFiles
  maxProcesses := r.maxProcesses.getD d.limits.maxProcesses

/-- The interval between two looks, which is never zero. -/
def resolvePoll (r : Request) (d : Defaults) : UInt64 :=
  max (r.pollInterval.getD d.pollInterval) 1

end Request

end Confine.Sandbox
