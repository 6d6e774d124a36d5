import Confine.Exit
import Confine.Json
import Confine.Limits

set_option autoImplicit false

/-! # Limits and exits as JSON

Limits are written as an object with one field for each cap and read back from one; a cap that
is absent is zero, and fields with other names are passed over. Limits may also be given as an
array of their caps in order, which may be shorter. An exit has two fields, either of which may
be `null`. -/

namespace Confine

/-! ## Writing -/

/-- The caps as named fields. -/
def Limits.fields (l : Limits) : List (String × Json) :=
  [ ("max_memory", .ofUInt64 l.maxMemory), ("max_cpu_time", .ofUInt64 l.maxCpuTime),
    ("max_files", .ofUInt32 l.maxFiles), ("max_processes", .ofUInt32 l.maxProcesses) ]

/-- Limits as an object. -/
def Limits.toJson (l : Limits) : Json :=
  .object l.fields

/-- An exit as an object. -/
def ExitReport.toJson (r : ExitReport) : Json :=
  .object [("code", .ofOption .ofInt32 r.code), ("signal", .ofOption .ofInt32 r.signal)]

/-! ## Reading -/

namespace Json

/-- The value as a number below a bound. -/
def unsigned? (bound : Nat) : Json → Option Nat
  | .integer n => if 0 ≤ n ∧ n < bound then some n.toNat else none
  | _ => none

end Json

namespace Limits

/-- The limits whose caps are found by `cap`, which gives the value for the cap with a place and
a name, if there is one. -/
def ofCaps? (cap : Nat → String → Option Json) : Option Limits := do
  let read (bound place : Nat) (name : String) : Option Nat :=
    match cap place name with
    | none => some 0
    | some value => value.unsigned? bound
  let maxMemory ← read UInt64.size 0 "max_memory"
  let maxCpuTime ← read UInt64.size 1 "max_cpu_time"
  let maxFiles ← read UInt32.size 2 "max_files"
  let maxProcesses ← read UInt32.size 3 "max_processes"
  some {
    maxMemory := UInt64.ofNat maxMemory
    maxCpuTime := UInt64.ofNat maxCpuTime
    maxFiles := UInt32.ofNat maxFiles
    maxProcesses := UInt32.ofNat maxProcesses }

/-- The limits that a JSON value writes. -/
def ofJson? : Json → Option Limits
  | .object fields => ofCaps? fun _ name => fields.lookup name
  | .array items => if items.length ≤ 4 then ofCaps? fun place _ => items[place]? else none
  | _ => none

end Limits

end Confine
