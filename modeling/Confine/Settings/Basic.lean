import Confine.Log.Format
import Confine.Sandbox.Request
import Confine.Text.Decimal

set_option autoImplicit false

/-! # Settings

What a user can set once and for all: the defaults for sandboxes, and how the journal is shown.
There are nine settings, each with a `Key`; `get` writes the value of a key as text and `set`
reads one. Changing a setting by hand is lenient about the case of names, and strict about
everything else. -/

namespace Confine

/-- How the journal is shown. -/
structure Settings.Logging where
  /-- The filter, unless something else asks for another one. -/
  level : String := "info"
  /-- The form of the lines. -/
  format : Log.Format := .text
  /-- Whether the lines go to a file. -/
  file : Bool := false
  deriving DecidableEq, Repr

/-- All settings. -/
structure Settings where
  /-- The defaults for sandboxes. -/
  sandbox : Sandbox.Defaults := {}
  /-- How the journal is shown. -/
  logging : Settings.Logging := {}
  deriving DecidableEq, Repr

namespace Settings

/-- The name of a setting. -/
inductive Key where
  /-- The isolation mode. -/
  | mode
  /-- The cap on address space. -/
  | maxMemory
  /-- The cap on processor time. -/
  | maxCpuTime
  /-- The cap on open files. -/
  | maxFiles
  /-- The cap on processes. -/
  | maxProcesses
  /-- The interval between two looks at a command. -/
  | pollInterval
  /-- The filter of the journal. -/
  | level
  /-- The form of the journal's lines. -/
  | format
  /-- Whether the journal goes to a file. -/
  | file
  deriving DecidableEq, Repr

namespace Key

/-- Every key, in the order in which settings are written. -/
def all : List Key :=
  [ .mode, .maxMemory, .maxCpuTime, .maxFiles, .maxProcesses, .pollInterval, .level, .format,
    .file ]

/-- The section that a key belongs to. -/
def group : Key → String
  | .level | .format | .file => "logging"
  | _ => "sandbox"

/-- The name of a key within its section. -/
def name : Key → String
  | .mode => "mode"
  | .maxMemory => "max_memory"
  | .maxCpuTime => "max_cpu_time"
  | .maxFiles => "max_files"
  | .maxProcesses => "max_processes"
  | .pollInterval => "poll_interval_ms"
  | .level => "level"
  | .format => "format"
  | .file => "file"

/-- The written form of a key. -/
def path (k : Key) : String :=
  k.group ++ "." ++ k.name

/-- The key with a written form. -/
def ofPath? (text : String) : Option Key :=
  all.find? fun k => k.path == text

end Key

/-- Why a setting was neither read nor changed. -/
inductive Error where
  /-- There is no such key. -/
  | unknownKey (key : String)
  /-- The value is not a mode. -/
  | invalidMode (value : String)
  /-- The value is not a form of lines. -/
  | invalidFormat (value : String)
  /-- The value is not a number in range. -/
  | invalidNumber (fault : Text.Decimal.Fault)
  /-- The value is not a truth value. -/
  | invalidFlag
  deriving DecidableEq, Repr

/-- The wording of a failure. -/
def Error.message : Error → String
  | .unknownKey key => "Unknown config key: " ++ key
  | .invalidMode value => "Invalid sandbox mode: invalid variant: " ++ value
  | .invalidFormat value => "Invalid log format: invalid variant: " ++ value
  | .invalidNumber fault => fault.message
  | .invalidFlag => "provided string was not \x60true\x60 or \x60false\x60"

/-- The value of a setting as text. -/
def render (s : Settings) : Key → String
  | .mode => s.sandbox.mode.name
  | .maxMemory => toString s.sandbox.limits.maxMemory
  | .maxCpuTime => toString s.sandbox.limits.maxCpuTime
  | .maxFiles => toString s.sandbox.limits.maxFiles
  | .maxProcesses => toString s.sandbox.limits.maxProcesses
  | .pollInterval => toString s.sandbox.pollInterval
  | .level => s.logging.level
  | .format => s.logging.format.name
  | .file => toString s.logging.file

/-- Read a 64-bit number. -/
def readWide (value : String) : Except Error UInt64 :=
  (Text.Decimal.readUInt64 value).mapError .invalidNumber

/-- Read a 32-bit number. -/
def readNarrow (value : String) : Except Error UInt32 :=
  (Text.Decimal.readUInt32 value).mapError .invalidNumber

/-- Read a truth value. -/
def readFlag (value : String) : Except Error Bool :=
  if value = "true" then .ok true
  else if value = "false" then .ok false
  else .error .invalidFlag

/-- Read a mode. -/
def readMode (value : String) : Except Error Mode :=
  match Mode.ofNameAnyCase? value with
  | some mode => .ok mode
  | none => .error (.invalidMode value)

/-- Read a form of lines. -/
def readFormat (value : String) : Except Error Log.Format :=
  match Log.Format.ofNameAnyCase? value with
  | some format => .ok format
  | none => .error (.invalidFormat value)

/-- The settings with changed defaults for sandboxes. -/
def withSandbox (s : Settings) (change : Sandbox.Defaults → Sandbox.Defaults) : Settings :=
  { s with sandbox := change s.sandbox }

/-- The settings with changed default limits. -/
def withLimits (s : Settings) (change : Limits → Limits) : Settings :=
  s.withSandbox fun d => { d with limits := change d.limits }

/-- The settings with a changed way to show the journal. -/
def withLogging (s : Settings) (change : Logging → Logging) : Settings :=
  { s with logging := change s.logging }

/-- Change the setting with a key to the value that a text writes. -/
def assign (s : Settings) (key : Key) (value : String) : Except Error Settings :=
  match key with
  | .mode => (readMode value).map fun v => s.withSandbox fun d => { d with mode := v }
  | .maxMemory => (readWide value).map fun v => s.withLimits fun l => { l with maxMemory := v }
  | .maxCpuTime => (readWide value).map fun v => s.withLimits fun l => { l with maxCpuTime := v }
  | .maxFiles => (readNarrow value).map fun v => s.withLimits fun l => { l with maxFiles := v }
  | .maxProcesses =>
    (readNarrow value).map fun v => s.withLimits fun l => { l with maxProcesses := v }
  | .pollInterval =>
    (readWide value).map fun v => s.withSandbox fun d => { d with pollInterval := v }
  | .level => .ok (s.withLogging fun l => { l with level := value })
  | .format => (readFormat value).map fun v => s.withLogging fun l => { l with format := v }
  | .file => (readFlag value).map fun v => s.withLogging fun l => { l with file := v }

/-- The value of the setting with a written key. -/
def get (s : Settings) (key : String) : Except Error String :=
  match Key.ofPath? key with
  | some k => .ok (s.render k)
  | none => .error (.unknownKey key)

/-- Change the setting with a written key. -/
def set (s : Settings) (key value : String) : Except Error Settings :=
  match Key.ofPath? key with
  | some k => s.assign k value
  | none => .error (.unknownKey key)

end Settings

end Confine
