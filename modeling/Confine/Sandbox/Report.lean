import Confine.Json.Records
import Confine.Sandbox.Basic

set_option autoImplicit false

/-! # Reports

A report puts all that can be asked of a sandbox into one record. It is put together from
three questions, each of which polls the child, and a look at what is remembered. -/

namespace Confine.Sandbox

variable {σ : Type}

/-- A view of a sandbox. -/
structure Report where
  /-- The isolation mode. -/
  mode : Mode
  /-- The limits for its commands. -/
  limits : Limits
  /-- The process of the last command. -/
  pid : UInt32
  /-- Whether something ran when the report was begun. -/
  status : Status
  /-- The resident size of the running command. -/
  memory : UInt64
  /-- The processor time of the running command. -/
  cpuTime : UInt64
  /-- How the last command ended. -/
  lastExit : Option ExitReport
  /-- What the last machine code returned. -/
  lastResult : Option Int32
  deriving DecidableEq, Repr

/-- Ask for the status, the resident size and the processor time, in this order, and add what
is remembered then. -/
def report (b : Backend σ) (s : Sandbox σ) : Report × Sandbox σ :=
  let (status, s) := s.status b
  let (memory, s) := s.memory b
  let (cpuTime, s) := s.cpuTime b
  let d := s.descriptor
  ({ mode := d.mode, limits := d.limits, pid := d.pid, status, memory, cpuTime,
     lastExit := d.lastExit, lastResult := d.lastResult }, s)

/-- The report as an object. -/
def Report.toJson (r : Report) : Json :=
  .object [
    ("mode", .string r.mode.name),
    ("limits", r.limits.toJson),
    ("pid", .ofUInt32 r.pid),
    ("status", .string r.status.name),
    ("memory_bytes", .ofUInt64 r.memory),
    ("cpu_time_ms", .ofUInt64 r.cpuTime),
    ("last_exit", .ofOption ExitReport.toJson r.lastExit),
    ("last_result", .ofOption .ofInt32 r.lastResult) ]

end Confine.Sandbox
