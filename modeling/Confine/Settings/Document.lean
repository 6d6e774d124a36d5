import Confine.Json.Records
import Confine.Settings.Basic
import Confine.Toml.Reader
import Confine.Toml.Writer

set_option autoImplicit false

/-! # Settings in documents

Settings are kept in a TOML document of two sections. Reading takes the default for whatever is
absent and passes over unknown names, but a known name with a value of the wrong kind makes the
whole document unreadable. Names of modes and forms are read exactly as they are written.
`template` is a document of defaults with a comment on each setting. -/

namespace Confine.Settings

/-! ## Reading -/

/-- A number below a bound, or the default where there is no value. -/
def number? (bound fallback : Nat) : Option Toml.Value → Option Nat
  | none => some fallback
  | some (.integer n) => if 0 ≤ n ∧ n < bound then some n.toNat else none
  | some _ => none

/-- A choice among named values, or the default where there is no value. A name may also stand
as the only name of a table, over nothing. -/
def choice? {α : Type} (ofName? : String → Option α) (fallback : α) :
    Option Toml.Value → Option α
  | none => some fallback
  | some (.string name) => ofName? name
  | some (.table _ [(name, .table _ [])]) => ofName? name
  | some (.table _ [(name, .array [])]) => ofName? name
  | some _ => none

/-- A text, or the default where there is no value. -/
def text? (fallback : String) : Option Toml.Value → Option String
  | none => some fallback
  | some (.string s) => some s
  | some _ => none

/-- A truth value, or the default where there is no value. -/
def flag? (fallback : Bool) : Option Toml.Value → Option Bool
  | none => some fallback
  | some (.boolean b) => some b
  | some _ => none

mutual

/-- Whether all numbers within a value are in range, whole ones between `low` and `high`. -/
def inRange (low high : Int) : Toml.Value → Bool
  | .integer n => low ≤ n && n ≤ high
  | .real ok => ok
  | .array items => itemsInRange low high items
  | .table _ entries => entriesInRange low high entries
  | .tables items => tablesInRange low high items
  | _ => true

/-- Whether all numbers within some values are in range. -/
def itemsInRange (low high : Int) : List Toml.Value → Bool
  | [] => true
  | item :: rest => inRange low high item && itemsInRange low high rest

/-- Whether all numbers within named values are in range. -/
def entriesInRange (low high : Int) : List (String × Toml.Value) → Bool
  | [] => true
  | (_, value) :: rest => inRange low high value && entriesInRange low high rest

/-- Whether all numbers within several tables are in range. -/
def tablesInRange (low high : Int) : List (List (String × Toml.Value)) → Bool
  | [] => true
  | entries :: rest => entriesInRange low high entries && tablesInRange low high rest

end

/-- The defaults for sandboxes from their section. Values in it have to fit in 64 bits even
under unknown names. A date or a time counts as a section of unknown names. -/
def sandbox? : Option Toml.Value → Option Sandbox.Defaults
  | none | some .moment => some {}
  | some (.table _ es) => do
    let mode ← choice? Mode.ofName? .none (es.lookup "mode")
    let pollInterval ← number? UInt64.size 100 (es.lookup "poll_interval_ms")
    let maxMemory ← number? UInt64.size 0 (es.lookup "max_memory")
    let maxCpuTime ← number? UInt64.size 0 (es.lookup "max_cpu_time")
    let maxFiles ← number? UInt32.size 0 (es.lookup "max_files")
    let maxProcesses ← number? UInt32.size 0 (es.lookup "max_processes")
    if entriesInRange Int64.minValue.toInt (UInt64.size - 1)
        (es.filter fun e => e.1 ≠ "mode") then
      some {
        mode
        limits := {
          maxMemory := UInt64.ofNat maxMemory
          maxCpuTime := UInt64.ofNat maxCpuTime
          maxFiles := UInt32.ofNat maxFiles
          maxProcesses := UInt32.ofNat maxProcesses }
        pollInterval := UInt64.ofNat pollInterval }
    else none
  | some _ => none

/-- The way to show the journal from its values, found by `value`. -/
def loggingOf? (value : Nat → String → Option Toml.Value) : Option Logging := do
  let level ← text? "info" (value 0 "level")
  let format ← choice? Log.Format.ofName? .text (value 1 "format")
  let file ← flag? false (value 2 "file")
  some { level, format, file }

/-- Whether all numbers within named values fit in 128 bits. -/
def areFitting (es : Toml.Entries) : Bool :=
  entriesInRange (-Int.ofNat (Nat.pow 2 127)) (Int.ofNat (Nat.pow 2 128) - 1) es

/-- The way to show the journal from its section, which may also be an array of its values in
order. A date or a time counts as a section of unknown names. What follows the values in an array is
not looked at. -/
def logging? : Option Toml.Value → Option Logging
  | none | some .moment => some {}
  | some (.table _ es) => if areFitting es then loggingOf? fun _ name => es.lookup name else none
  | some (.array items) => loggingOf? fun place _ => items[place]?
  | some (.tables items) => if items.isEmpty then some {} else none
  | some _ => none

/-- The settings that a document holds. -/
def ofToml? (es : Toml.Entries) : Option Settings := do
  if areFitting (es.filter fun e => e.1 ≠ "logging") then
    let sandbox ← sandbox? (es.lookup "sandbox")
    let logging ← logging? (es.lookup "logging")
    some { sandbox, logging }
  else none

/-- The settings that a text writes. -/
def parse? (text : String) : Option Settings :=
  Toml.read? text >>= ofToml?

/-! ## Writing -/

/-- The value of a setting as a document writes it. Names and texts are quoted. -/
def written (s : Settings) : Key → String
  | .mode => "\"" ++ s.render .mode ++ "\""
  | .level => String.ofList (Toml.writeText s.logging.level.toList)
  | .format => "\"" ++ s.render .format ++ "\""
  | k => s.render k

/-- The lines of some settings. -/
def entries (s : Settings) (keys : List Key) : String :=
  String.join (keys.map fun k => Toml.writeEntry k.name (s.written k))

/-- The settings as a document. -/
def toToml (s : Settings) : String :=
  "[sandbox]\n" ++ s.entries (Key.all.filter fun k => k.group == "sandbox") ++
    "\n[logging]\n" ++ s.entries (Key.all.filter fun k => k.group == "logging")

/-- The settings as JSON. -/
def toJson (s : Settings) : Json :=
  .object [
    ("sandbox", .object
      ([("mode", .string s.sandbox.mode.name)] ++ s.sandbox.limits.fields ++
        [("poll_interval_ms", .ofUInt64 s.sandbox.pollInterval)])),
    ("logging", .object [
      ("level", .string s.logging.level),
      ("format", .string s.logging.format.name),
      ("file", .bool s.logging.file)]) ]

/-- The lines of the commented defaults. -/
def templateLines : List String :=
  [ "# execbox configuration",
    "",
    "[sandbox]",
    "# Default mode for \x60execbox sandbox run\x60: none | process | vm | restricted",
    "mode = \"none\"",
    "",
    "# Default resource limits. 0 leaves a resource unbounded.",
    "max_memory = 0          # bytes (address space on Unix, job memory on Windows)",
    "max_cpu_time = 0        # milliseconds (rounded up to whole seconds on Unix)",
    "max_files = 0           # open file descriptors (Unix only)",
    "max_processes = 0       # processes (Linux and Windows)",
    "",
    "# How often \x60sandbox run\x60 polls status and usage",
    "poll_interval_ms = 100",
    "",
    "[logging]",
    "# Overridden by RUST_LOG and --verbose",
    "level = \"info\"",
    "format = \"text\"         # text | json",
    "# file = true           # log to <state_dir>/logs/execbox.log instead of stderr" ]

/-- A document of defaults, with a comment on each setting. -/
def template : String :=
  String.join (templateLines.map (· ++ "\n"))

end Confine.Settings
