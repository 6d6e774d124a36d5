import Confine.Sandbox.Report

set_option autoImplicit false

/-! # Supervision

To supervise a command is to start it, to look at it at regular intervals until it has exited,
and to stop it early when an interrupt comes. Each look reads its usage before it asks for its
status, since nothing can be read any more once the exit has been noticed. What comes of it is
a `Summary`.

The passage of time belongs to the outside, so it is an argument: a `Clock` lets an interval
pass and tells whether the interrupt has come. A command may run for ever, and so the number
of looks is bounded by an argument too; with too small a bound there is no result. -/

namespace Confine.Sandbox

variable {σ : Type}

/-- The passage of time. -/
structure Clock (σ : Type) where
  /-- Let this many milliseconds pass, or fewer if an interrupt comes. -/
  elapse : UInt64 → σ → σ
  /-- Whether the interrupt has come. -/
  interrupted : σ → Bool
  /-- The time in milliseconds. -/
  now : σ → UInt64

/-- The usage that was seen. -/
structure Tally where
  /-- The largest resident size in bytes. -/
  peakMemory : UInt64 := 0
  /-- The largest processor time in milliseconds. -/
  cpuTime : UInt64 := 0
  /-- The number of looks at which there was something to see. -/
  samples : UInt32 := 0
  deriving DecidableEq, Repr

/-- The tally with one more look. A look at which both readings are zero saw nothing. -/
def Tally.add (t : Tally) (memory cpuTime : UInt64) : Tally :=
  if memory ≠ 0 ∨ cpuTime ≠ 0 then
    { peakMemory := max t.peakMemory memory
      cpuTime := max t.cpuTime cpuTime
      samples := t.samples + 1 }
  else t

/-- The outcome of a supervised command. -/
structure Summary where
  /-- The command. -/
  command : String
  /-- The isolation mode. -/
  mode : Mode
  /-- The limits under which it ran. -/
  limits : Limits
  /-- Its process. -/
  pid : UInt32
  /-- How it ended. -/
  exit : Option ExitReport
  /-- Whether the supervision was cut short. -/
  interrupted : Bool
  /-- The usage that was seen. -/
  usage : Tally
  /-- How long it took in milliseconds. -/
  elapsed : UInt64
  deriving DecidableEq, Repr

/-- Look once at the running command: the tally after the look, and the status. -/
def look (b : Backend σ) (pid : UInt32) (t : Tally) (s : Sandbox σ) :
    Tally × Status × Sandbox σ :=
  let (memory, s) := s.memory b
  let (cpuTime, s) := s.cpuTime b
  let t := t.add memory cpuTime
  let (status, s) := s.status b
  match status with
  | .idle => (t, status, s)
  | .running => (t, status, s.note [.sampled pid t.peakMemory t.cpuTime])

/-- Stop the running command because of an interrupt, unless it has exited meanwhile. -/
def interrupt (b : Backend σ) (pid : UInt32) (s : Sandbox σ) : Except Error Unit × Sandbox σ :=
  let s := s.note [.interrupted pid]
  let (status, s) := s.status b
  match status with
  | .running => s.stop b
  | .idle => (.ok (), s)

/-- Look at the command until it has exited or the interrupt comes, at most as often as the
first number says. The result is the tally, and whether the interrupt came. -/
def watch (b : Backend σ) (c : Clock σ) (poll : UInt64) (pid : UInt32) :
    Nat → Tally → Sandbox σ → Option (Except Error (Tally × Bool)) × Sandbox σ
  | 0, _, s => (none, s)
  | looks + 1, t, s =>
    if c.interrupted s.world.state then
      let (stopped, s) := s.interrupt b pid
      (some (stopped.map fun _ => (t, true)), s)
    else
      let (t, status, s) := s.look b pid t
      match status with
      | .idle => (some (.ok (t, false)), s)
      | .running =>
        let w := { s.world with state := c.elapse poll s.world.state }
        watch b c poll pid looks t { s with world := w }

/-- Start a command and look at it every `poll` milliseconds, the first time at once. -/
def supervise (b : Backend σ) (c : Clock σ) (looks : Nat) (command : String) (poll : UInt64)
    (s : Sandbox σ) : Option (Except Error Summary) × Sandbox σ :=
  let start := c.now s.world.state
  let (started, s) := s.exec b command
  match started with
  | .error cause => (some (.error cause), s)
  | .ok pid =>
    let s := s.note [.started pid s.descriptor.mode]
    let (watched, s) := s.watch b c poll pid looks {}
    match watched with
    | none => (none, s)
    | some (.error cause) => (some (.error cause), s)
    | some (.ok (usage, interrupted)) =>
      let (exit, s) := s.lastExit b
      let d := s.descriptor
      let elapsed := c.now s.world.state - start
      (some (.ok { command, mode := d.mode, limits := d.limits, pid, exit, interrupted, usage,
                   elapsed }), s)

/-! ## Summaries in writing -/

namespace Summary

/-- The summary as an object. -/
def toJson (r : Summary) : Json :=
  .object [
    ("command", .string r.command),
    ("mode", .string r.mode.name),
    ("limits", r.limits.toJson),
    ("pid", .ofUInt32 r.pid),
    ("exit", .ofOption ExitReport.toJson r.exit),
    ("interrupted", .bool r.interrupted),
    ("peak_memory_bytes", .ofUInt64 r.usage.peakMemory),
    ("cpu_time_ms", .ofUInt64 r.usage.cpuTime),
    ("usage_samples", .ofUInt32 r.usage.samples),
    ("elapsed_ms", .ofUInt64 r.elapsed) ]

/-- The summary as lines for a reader. -/
def lines (r : Summary) : List String :=
  [s!"pid:         {r.pid}", "exit:        " ++ r.exit.elim "unknown" ExitReport.describe] ++
    (if r.interrupted then ["interrupted: yes"] else []) ++
    (if r.usage.samples = 0 then
      ["usage:       not sampled (exited before first poll)"]
    else
      [ s!"peak rss:    {r.usage.peakMemory} bytes ({r.usage.samples} samples)",
        s!"cpu time:    {r.usage.cpuTime} ms (last sample)" ]) ++
    [s!"elapsed:     {r.elapsed} ms"]

end Summary

end Confine.Sandbox
