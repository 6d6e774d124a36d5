import Confine.Code.Error
import Confine.Code.Instruction
import Confine.Exit
import Confine.Limits
import Confine.Machine
import Confine.Mode

set_option autoImplicit false

/-! # The journal

Everything that is worth telling about a run is an `Event`, and operations hand back the
events that they caused, in order. An event says what happened in the library's own types; its
severity, its topic and its wording are functions of it. What is shown to a reader is
decided later, by a filter on severity and topic.

One kind of event is more than a note: a failure of the code layer. The most recent of those
is what `Slot` remembers, so a slot is a fold over the journal. -/

namespace Confine

/-- How much an event matters. -/
inductive Severity where
  /-- The program cannot go on. -/
  | error
  /-- Something is wrong and the program goes on. -/
  | warn
  /-- Something happened that a user cares about. -/
  | info
  /-- Something happened that explains the program's behaviour. -/
  | debug
  /-- Everything else. -/
  | trace
  deriving DecidableEq, Repr

namespace Severity

/-- The severities, the most urgent first. -/
def all : List Severity :=
  [.error, .warn, .info, .debug, .trace]

/-- The written name of a severity. -/
def name : Severity → String
  | .error => "ERROR"
  | .warn => "WARN"
  | .info => "INFO"
  | .debug => "DEBUG"
  | .trace => "TRACE"

/-- The number of a severity, from one for the most urgent to five. -/
def rank : Severity → Nat
  | .error => 1
  | .warn => 2
  | .info => 3
  | .debug => 4
  | .trace => 5

end Severity

/-- The part of the library that an event comes from. -/
inductive Topic where
  /-- Failures of the code layer. -/
  | failure
  /-- Memory for code. -/
  | region
  /-- Code blocks. -/
  | code
  /-- The commands on code. -/
  | codeCommand
  /-- The translation of limits. -/
  | limits
  /-- Child processes. -/
  | process
  /-- The sandbox. -/
  | sandbox
  /-- The commands on sandboxes. -/
  | sandboxCommand
  deriving DecidableEq, Repr

/-- The written path of a topic. A filter selects topics by the start of their paths. -/
def Topic.path : Topic → String
  | .failure => "execbox::error"
  | .region => "execbox::code::region"
  | .code => "execbox::code"
  | .codeCommand => "execbox::cli::code"
  | .limits => "execbox::sandbox::limits"
  | .process => "execbox::platform::unix"
  | .sandbox => "execbox::sandbox::controller"
  | .sandboxCommand => "execbox::cli::sandbox"

/-- Something that happened. -/
inductive Event where
  /-- The code layer refused something. -/
  | failed (cause : Code.Error)
  /-- Writable pages were mapped for a number of bytes. -/
  | mapped (pages size : UInt64)
  /-- Pages were made executable. -/
  | sealed (pages : UInt64)
  /-- Code was loaded. -/
  | loaded (size : UInt64) (architecture backend : String)
  /-- Code is about to be called. -/
  | executing (size : UInt64) (call : Machine.Call)
  /-- Instructions are about to be refused. -/
  | refusing (count : Nat) (architecture backend : String)
  /-- A block gave up its code. -/
  | freeing (size : UInt64) (architecture : String)
  /-- An instruction was read. -/
  | parsed (instruction : Code.Instruction)
  /-- Limits were translated. -/
  | planned (plan : Plan)
  /-- A configured limit cannot be enforced. -/
  | unenforceable (kind : LimitKind)
  /-- A child process was started. -/
  | spawned (command : String) (pid : UInt32)
  /-- A sandbox was created. -/
  | created (mode : Mode) (container : Bool) (limits : Limits)
  /-- A sandbox runs a command. -/
  | running (mode : Mode) (command : String) (pid : UInt32)
  /-- A sandboxed process was found to have exited. -/
  | exited (pid : UInt32) (report : ExitReport)
  /-- A sandboxed process could not be polled. -/
  | pollFailed (pid : UInt32) (reason : String)
  /-- Code in the host process returned. -/
  | returned (result : Int32)
  /-- A sandboxed process was stopped. -/
  | stopped (pid : UInt32) (report : ExitReport)
  /-- A sandboxed process could not be killed. -/
  | killFailed (pid : UInt32) (reason : String)
  /-- A sandboxed process could not be reaped. -/
  | reapFailed (pid : UInt32) (reason : String)
  /-- A sandbox was destroyed. -/
  | destroyed (mode : Mode)
  /-- Supervision of a command began. -/
  | started (pid : UInt32) (mode : Mode)
  /-- Supervision was cancelled while its command was running. -/
  | interrupted (pid : UInt32)
  /-- The usage of a supervised command was read. -/
  | sampled (pid : UInt32) (memory cpuTime : UInt64)
  deriving DecidableEq

namespace Event

/-- How much an event matters. -/
def severity : Event → Severity
  | .unenforceable _ | .pollFailed _ _ | .killFailed _ _ | .reapFailed _ _ => .warn
  | .loaded _ _ _ | .running _ _ _ | .exited _ _ | .stopped _ _ | .started _ _
  | .interrupted _ => .info
  | _ => .debug

/-- Where an event comes from. -/
def topic : Event → Topic
  | .failed _ => .failure
  | .mapped _ _ | .sealed _ => .region
  | .loaded _ _ _ | .executing _ _ | .refusing _ _ _ | .freeing _ _ => .code
  | .parsed _ => .codeCommand
  | .planned _ | .unenforceable _ => .limits
  | .spawned _ _ => .process
  | .created _ _ _ | .running _ _ _ | .exited _ _ | .pollFailed _ _ | .returned _
  | .stopped _ _ | .killFailed _ _ | .reapFailed _ _ | .destroyed _ => .sandbox
  | .started _ _ | .interrupted _ | .sampled _ _ _ => .sandboxCommand

/-- The wording of an event. The place of a region in memory is written as `0xPTR`, since a
region has no address outside the process that maps it. -/
def text : Event → String
  | .failed cause => cause.message
  | .mapped pages size => s!"Mapped {pages} bytes RW for {size} bytes of code"
  | .sealed pages => s!"Sealed {pages} bytes RX at 0xPTR"
  | .loaded size architecture backend =>
    s!"Loaded {size} bytes of {architecture} code via {backend} backend"
  | .executing size call => s!"Executing {size} byte region with argc={call.argc}"
  | .refusing count architecture backend =>
    s!"Refusing to assemble {count} {architecture} instructions for {backend} backend"
  | .freeing size architecture => s!"Freeing {size} byte block ({architecture})"
  | .parsed instruction => "  " ++ instruction.render
  | .planned plan => "Spawn plan: " ++ plan.renderSettings
  | .unenforceable kind =>
    s!"{kind.label} limit is not enforceable on this platform, ignoring"
  | .spawned command pid => s!"Spawned /bin/sh -c {Text.quoted command} as pid {pid}"
  | .created mode container limits =>
    s!"Created {mode.name} sandbox (container: {container}, limits: {limits.render})"
  | .running mode command pid =>
    s!"Sandbox ({mode.name}) running {Text.quoted command} as pid {pid}"
  | .exited pid report => s!"Sandboxed process {pid} exited: {report.render}"
  | .pollFailed pid reason => s!"Failed to poll sandboxed process {pid}: {reason}"
  | .returned result => s!"VM code returned {result}"
  | .stopped pid report => s!"Stopped sandboxed process {pid}: {report.render}"
  | .killFailed pid reason => s!"Failed to kill sandboxed process {pid}: {reason}"
  | .reapFailed pid reason => s!"Failed to reap sandboxed process {pid}: {reason}"
  | .destroyed mode => s!"Sandbox ({mode.name}) destroyed"
  | .started pid mode => s!"Started pid {pid} ({mode.name} mode)"
  | .interrupted pid => s!"Interrupted; stopping pid {pid}"
  | .sampled pid memory cpuTime => s!"pid {pid}: rss {memory} bytes, cpu {cpuTime} ms"

end Event

/-! ## The most recent failure -/

/-- The wording of the most recent failure of the code layer, if there was one. -/
abbrev Slot := Option String

namespace Slot

/-- The slot after an event: a failure takes it over, and nothing else touches it. -/
def note (slot : Slot) : Event → Slot
  | .failed cause => some cause.message
  | _ => slot

/-- The slot after several events. -/
def noteAll (slot : Slot) (events : List Event) : Slot :=
  events.foldl note slot

end Slot

end Confine
