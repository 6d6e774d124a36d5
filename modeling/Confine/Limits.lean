set_option autoImplicit false

/-! # Resource limits

Four caps, each with zero for "unbounded", and their translation into what a platform can
enforce. A `Plan` is such a translation: the settings to apply, in a fixed order, and the
kinds that the platform has no means for. A cap that is configured is always in one of the
two lists, so that nothing is dropped in silence. -/

namespace Confine

/-- Caps on what a sandboxed command may use. Zero leaves a resource unbounded. -/
structure Limits where
  /-- Address space in bytes. -/
  maxMemory : UInt64 := 0
  /-- Processor time in milliseconds. -/
  maxCpuTime : UInt64 := 0
  /-- Open file descriptors. -/
  maxFiles : UInt32 := 0
  /-- Processes. -/
  maxProcesses : UInt32 := 0
  deriving DecidableEq, Repr, Inhabited

/-- What a limit is put on. -/
inductive LimitKind where
  /-- Address space. -/
  | memory
  /-- Processor time. -/
  | cpuTime
  /-- Open file descriptors. -/
  | openFiles
  /-- Processes. -/
  | processes
  deriving DecidableEq, Repr

namespace LimitKind

/-- Every kind, in the order of a plan's settings. -/
def all : List LimitKind :=
  [.memory, .cpuTime, .openFiles, .processes]

/-- The written name of a kind. -/
def name : LimitKind → String
  | .memory => "memory"
  | .cpuTime => "cpu-time"
  | .openFiles => "open-files"
  | .processes => "processes"

/-- The name of a kind as a constructor, used where a whole record is shown. -/
def label : LimitKind → String
  | .memory => "Memory"
  | .cpuTime => "CpuTime"
  | .openFiles => "OpenFiles"
  | .processes => "Processes"

end LimitKind

namespace Limits

/-- The kinds that carry a cap. -/
def configured (l : Limits) : List LimitKind :=
  let kinds := []
  let kinds := if l.maxMemory ≠ 0 then kinds ++ [.memory] else kinds
  let kinds := if l.maxCpuTime ≠ 0 then kinds ++ [.cpuTime] else kinds
  let kinds := if l.maxFiles ≠ 0 then kinds ++ [.openFiles] else kinds
  if l.maxProcesses ≠ 0 then kinds ++ [.processes] else kinds

/-- Whether no resource carries a cap. -/
def isUnbounded (l : Limits) : Bool :=
  l.configured.isEmpty

/-- The limits with all their fields, as log lines and state dumps show them. -/
def render (l : Limits) : String :=
  s!"SandboxLimits \x7b max_memory: {l.maxMemory}, max_cpu_time: {l.maxCpuTime}, " ++
    s!"max_files: {l.maxFiles}, max_processes: {l.maxProcesses} \x7d"

/-- A cap for a reader, with its unit where it has one. -/
def renderCap (value : UInt64) (unit : String) : String :=
  if value = 0 then "unbounded"
  else if unit.isEmpty then toString value
  else s!"{value} {unit}"

end Limits

/-- One limit in the unit of the platform. -/
structure Setting where
  /-- What the limit is put on. -/
  kind : LimitKind
  /-- The limit itself. -/
  value : UInt64
  deriving DecidableEq, Repr

/-- Limits translated for a platform. -/
structure Plan where
  /-- The limits to apply before the command starts, in the order of `LimitKind.all`. -/
  settings : List Setting := []
  /-- The kinds that are configured and cannot be enforced. -/
  ignored : List LimitKind := []
  deriving DecidableEq, Repr

namespace Plan

/-- The plan with one more setting. -/
def push (p : Plan) (k : LimitKind) (value : UInt64) : Plan :=
  { p with settings := p.settings ++ [⟨k, value⟩] }

/-- The plan that leaves out one more kind. -/
def ignore (p : Plan) (k : LimitKind) : Plan :=
  { p with ignored := p.ignored ++ [k] }

/-- Processor time in whole seconds. One more than the whole seconds contained in the cap, so
that the enforced limit is never below it. -/
def wholeSeconds (milliseconds : UInt64) : UInt64 :=
  milliseconds / 1000 + 1

/-- A product of 64-bit numbers, or the largest number where it does not fit. -/
def saturatingMul (a b : UInt64) : UInt64 :=
  if a.toNat * b.toNat < UInt64.size then a * b else UInt64.ofNat (UInt64.size - 1)

/-- The translation for a platform with per-process limits: whole seconds for processor time and
plain numbers for the rest. Not every such platform can count processes. -/
def posix (countsProcesses : Bool) (l : Limits) : Plan :=
  let plan : Plan := {}
  let plan := if l.maxMemory ≠ 0 then plan.push .memory l.maxMemory else plan
  let plan := if l.maxCpuTime ≠ 0 then plan.push .cpuTime (wholeSeconds l.maxCpuTime) else plan
  let plan := if l.maxFiles ≠ 0 then plan.push .openFiles l.maxFiles.toUInt64 else plan
  if l.maxProcesses ≠ 0 then
    if countsProcesses then plan.push .processes l.maxProcesses.toUInt64
    else plan.ignore .processes
  else plan

/-- The translation for a platform with job objects: processor time in units of 100 ns, and no cap
on open files. -/
def jobObject (l : Limits) : Plan :=
  let plan : Plan := {}
  let plan := if l.maxMemory ≠ 0 then plan.push .memory l.maxMemory else plan
  let plan := if l.maxCpuTime ≠ 0 then plan.push .cpuTime (saturatingMul l.maxCpuTime 10000)
    else plan
  let plan := if l.maxFiles ≠ 0 then plan.ignore .openFiles else plan
  if l.maxProcesses ≠ 0 then plan.push .processes l.maxProcesses.toUInt64 else plan

/-- The translation for the platform of this library, which counts processes. -/
def native (l : Limits) : Plan :=
  posix true l

/-- The enforced value of a kind. -/
def get? (p : Plan) (k : LimitKind) : Option UInt64 :=
  (p.settings.find? fun s => s.kind == k).map Setting.value

/-- The settings as a log line shows them. -/
def renderSettings (p : Plan) : String :=
  let one (s : Setting) := s!"LimitSetting \x7b kind: {s.kind.label}, value: {s.value} \x7d"
  "[" ++ ", ".intercalate (p.settings.map one) ++ "]"

end Plan

end Confine
