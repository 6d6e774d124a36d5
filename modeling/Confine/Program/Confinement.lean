import Confine.Program.Act
import Confine.Sandbox.Native
import Confine.Sandbox.Request
import Confine.Settings.Store

set_option autoImplicit false

/-! # Commands on sandboxes

A command that works in a sandbox creates one, uses it and destroys it, whatever comes of the
use. What the sandboxed commands write goes to the same places as what the program writes
itself, and comes before it. -/

namespace Confine.Program

open Act

/-- Create a sandbox on a host, use it and destroy it. -/
def inSandbox {α : Type} (h : Sandbox.Host) (mode : Mode) (limits : Limits)
    (use : Sandbox Sandbox.Host → Except Sandbox.Error α × Sandbox Sandbox.Host) :
    Except Sandbox.Error α × Sandbox.World Sandbox.Host :=
  match Sandbox.create Sandbox.Host.backend mode limits { state := h } with
  | (.error cause, w) => (.error cause, w)
  | (.ok s, _) =>
    let (result, s) := use s
    let (_, s) := s.destroy Sandbox.Host.backend
    (result, s.world)

/-- Whether an event tells that a command ends or is being ended. -/
def tellsEnd : Event → Bool
  | .exited _ _ | .interrupted _ => true
  | _ => false

/-- What a host and a journal say together: what the commands wrote stands before the first event
that tells of an end. Nothing comes after that if the end is that of the host. -/
def entriesOf (w : Sandbox.World Sandbox.Host) : List Entry :=
  let before := w.journal.takeWhile fun e => !tellsEnd e
  let after := if w.state.isOver then [] else w.journal.dropWhile fun e => !tellsEnd e
  .output (w.state.written false) ::
    (before.map .event ++ [.notice (w.state.written true)] ++ after.map .event)

/-- Use a sandbox as a part of a run. The variables are those that commands are given. The run goes
no further if a signal was the end of the host. -/
def confined {α : Type} (env : Environment) (mode : Mode) (limits : Limits)
    (use : Sandbox Sandbox.Host → Except Sandbox.Error α × Sandbox Sandbox.Host) :
    Act α := do
  let (result, w) := inSandbox (.on (← get).files env) mode limits use
  modify fun s => { s with files := w.state.filesNow, host := some w.state.silenced }
  say (entriesOf w)
  match result with
  | .ok value => if w.state.isOver then fail "killed" else pure value
  | .error cause => throw (.ofSandbox cause)

/-- Run the code of a listing in a sandbox, and give what it returns. -/
def execCode (m : Machine) (env : Environment) (listing : String) : Act Int32 := do
  let bytes ← attempt (Code.decode listing)
  confined env .vm {} fun s => s.execCode Sandbox.Host.backend m bytes

/-- How many times a command is looked at before it is given up. -/
def maxLooks : Nat := 10000

/-- Start a command in a sandbox and watch it to its end. -/
def watch (command : String) (poll : UInt64) (s : Sandbox Sandbox.Host) :
    Except Sandbox.Error (Option Sandbox.Summary) × Sandbox Sandbox.Host :=
  match s.supervise Sandbox.Host.backend Sandbox.Host.clock maxLooks command poll with
  | (none, s) => (.ok none, s)
  | (some (.ok summary), s) => (.ok (some summary), s)
  | (some (.error cause), s) => (.error cause, s)

/-- Run a shell command in a sandbox and tell how it ended. A command that does not succeed makes
the run fail. -/
def runCommand (env : Environment) (d : Sandbox.Defaults) (r : Sandbox.Request) :
    Act Unit := do
  let mode := r.resolveMode d
  if mode = .vm then
    fail "vm mode runs machine code; use \x60sandbox exec-code\x60 instead"
  else
    let watched ← confined env mode (r.resolveLimits d) (watch r.command (r.resolvePoll d))
    match watched with
    | none => fail "command did not come to an end"
    | some summary =>
      if r.json then print summary.toJson.pretty
      else summary.lines.forM print
      match summary.exit with
      | none => fail "command did not report an exit status"
      | some exit => if exit.success then pure () else fail ("command " ++ exit.describe)

/-- The defaults for sandboxes, for a reader. -/
def defaultLines (c : Config) : List String :=
  let d := c.settings.sandbox
  [ s!"Sandbox defaults ({c.source}):",
    "  Mode:          " ++ d.mode.name,
    "  Max memory:    " ++ Limits.renderCap d.limits.maxMemory "bytes",
    "  Max CPU time:  " ++ Limits.renderCap d.limits.maxCpuTime "ms",
    "  Max files:     " ++ Limits.renderCap d.limits.maxFiles.toUInt64 "",
    "  Max processes: " ++ Limits.renderCap d.limits.maxProcesses.toUInt64 "",
    s!"  Poll interval: {d.pollInterval} ms" ]

/-- A plan, for a reader. -/
def planLines (plan : Plan) : List String :=
  let nothing :=
    if plan.settings.isEmpty then ["  (nothing, all limits unbounded)"] else []
  ["Enforced on linux:"] ++ nothing ++
    plan.settings.map (fun s => s!"  {s.kind.label} = {s.value}") ++
    plan.ignored.map (fun k => s!"  {k.label} ignored (not supported here)")

/-- Show the defaults for sandboxes and what of them is enforced. -/
def showDefaults (c : Config) : Act Unit := do
  let plan := Plan.native c.settings.sandbox.limits
  note (Sandbox.planEvents plan)
  (defaultLines c ++ [""] ++ planLines plan).forM print

end Confine.Program
