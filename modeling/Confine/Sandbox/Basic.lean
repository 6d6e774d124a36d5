import Confine.Code.Block
import Confine.Sandbox.Backend
import Confine.Sandbox.Error

set_option autoImplicit false

/-! # Sandboxes

A sandbox runs one shell command at a time in a child process, or, in the mode that permits
it, machine code in the host process. Its `Descriptor` says what it was created with, what it
owns and what it remembers.

Nothing tells a sandbox that its child has exited, so nearly every operation starts with
`refresh`, which polls the child and lets go of it once its exit is known. Operations return
their result together with the sandbox after it, and a failed operation is no exception: what
the poll found stays found. -/

namespace Confine

/-- Whether something runs in a sandbox. -/
inductive Sandbox.Status where
  /-- Nothing runs. -/
  | idle
  /-- A command runs, or machine code has been left in place. -/
  | running
  deriving DecidableEq, Repr, Inhabited

namespace Sandbox.Status

/-- The number of a status. -/
def code : Status → Nat
  | .idle => 0
  | .running => 1

/-- The written name of a status. -/
def name : Status → String
  | .idle => "idle"
  | .running => "running"

/-- The name of a status as a constructor, used where a whole record is shown. -/
def label : Status → String
  | .idle => "Idle"
  | .running => "Running"

end Sandbox.Status

/-- A child process that a sandbox owns. -/
structure Sandbox.Child where
  /-- The number of the child in the order in which children were started. -/
  index : Nat
  /-- The number of its process. -/
  pid : UInt32
  deriving DecidableEq, Repr

/-- What a sandbox is, owns and remembers. -/
structure Sandbox.Descriptor where
  /-- The isolation mode. -/
  mode : Mode
  /-- The limits for its commands. -/
  limits : Limits
  /-- The process of the last command; zero before the first and after destruction. -/
  pid : UInt32 := 0
  /-- Whether something runs, as far as is known. -/
  status : Status := .idle
  /-- Whether there is a limit container. -/
  container : Bool := false
  /-- The child that runs the current command. -/
  process : Option Child := none
  /-- The machine code that ran last. -/
  code : Option Code.ExecutableRegion := none
  /-- How the last command ended. -/
  lastExit : Option ExitReport := none
  /-- What the last machine code returned. -/
  lastResult : Option Int32 := none
  /-- Whether the sandbox has been destroyed. -/
  destroyed : Bool := false
  deriving DecidableEq, Repr

/-- A sandbox and the world around it. -/
structure Sandbox (σ : Type) where
  /-- The sandbox itself. -/
  descriptor : Sandbox.Descriptor
  /-- The world around it. -/
  world : Sandbox.World σ

namespace Sandbox

variable {σ : Type}

/-- The descriptor as a record, without what it owns and remembers. -/
def Descriptor.render (d : Descriptor) : String :=
  s!"Sandbox \x7b mode: {d.mode.label}, limits: {d.limits.render}, pid: {d.pid}, " ++
    s!"status: {d.status.label}, destroyed: {d.destroyed} \x7d"

/-- What the translation of limits tells: the kinds it has to leave out, and the plan. -/
def planEvents (plan : Plan) : List Event :=
  plan.ignored.map .unenforceable ++ [.planned plan]

/-- The sandbox with a changed descriptor. -/
def modify (s : Sandbox σ) (change : Descriptor → Descriptor) : Sandbox σ :=
  { s with descriptor := change s.descriptor }

/-- Note events in the journal. -/
def note (s : Sandbox σ) (events : List Event) : Sandbox σ :=
  { s with world := s.world.note events }

/-- Create a sandbox. Modes that use a limit container ask the backend for one, and fail with
it. -/
def create (b : Backend σ) (mode : Mode) (limits : Limits) (w : World σ) :
    Except Error (Sandbox σ) × World σ :=
  let (answer, w) := if mode.usesContainer then w.createContainer b limits else (.ok false, w)
  match answer with
  | .error reason => (.error (.container reason), w)
  | .ok container =>
    let w := w.note [.created mode container limits]
    (.ok ⟨{ mode, limits, container }, w⟩, w)

/-- Poll the child, if there is one, and let go of it if it has exited. -/
def refresh (b : Backend σ) (s : Sandbox σ) : Sandbox σ :=
  if s.descriptor.status ≠ .running then s
  else
    match s.descriptor.process with
    | none => s
    | some child =>
      let (answer, w) := s.world.tryWait b child.index
      match answer with
      | .ok (some report) =>
        let d := { s.descriptor with lastExit := some report, process := none, status := .idle }
        ⟨d, w.note [.exited s.descriptor.pid report]⟩
      | .ok none => ⟨s.descriptor, w⟩
      | .error reason => ⟨s.descriptor, w.note [.pollFailed s.descriptor.pid reason]⟩

/-! ## Operations that change the sandbox -/

/-- Start a command and give the number of its process. -/
def exec (b : Backend σ) (command : String) (s : Sandbox σ) : Except Error UInt32 × Sandbox σ :=
  if s.descriptor.destroyed then (.error .destroyed, s)
  else
    let s := s.refresh b
    if s.descriptor.status = .running then (.error .alreadyRunning, s)
    else
      let plan := Plan.native s.descriptor.limits
      let w := s.world.note (planEvents plan)
      let index := w.spawned
      let (answer, w) := w.spawn b command plan s.descriptor.container
      match answer with
      | .error reason => (.error (.spawn reason), ⟨s.descriptor, w⟩)
      | .ok pid =>
        let d := { s.descriptor with
          pid := pid, process := some ⟨index, pid⟩, lastExit := none, status := .running }
        (.ok pid, ⟨d, w.note [.running d.mode command pid]⟩)

/-- Run machine code in the host process and give what it returns. The descriptor changes only
once the code has run. -/
def execCode (b : Backend σ) (m : Machine) (bytes : List UInt8) (s : Sandbox σ) :
    Except Error Int32 × Sandbox σ :=
  if s.descriptor.destroyed then (.error .destroyed, s)
  else if s.descriptor.mode ≠ .vm then (.error (.unsupportedMode s.descriptor.mode), s)
  else
    let s := s.refresh b
    if s.descriptor.process.isSome then (.error .alreadyRunning, s)
    else
      let attempt : Code.Attempt (Code.ExecutableRegion × Int32) := do
        let region ← Code.load m bytes
        let result ← Code.invoke m region []
        pure (region, result)
      let s := s.note attempt.events
      match attempt.result with
      | .error cause => (.error (.code cause), s)
      | .ok (region, result) =>
        let d := { s.descriptor with
          code := some region, lastResult := some result, status := .running }
        (.ok result, ⟨d, s.world.note [.returned result]⟩)

/-- Stop what runs: kill the child and reap it, or let machine code go. A child that cannot be
killed stays owned; a child that was killed and cannot be reaped does not. -/
def stop (b : Backend σ) (s : Sandbox σ) : Except Error Unit × Sandbox σ :=
  if s.descriptor.destroyed then (.error .destroyed, s)
  else
    let s := s.refresh b
    if s.descriptor.status ≠ .running then (.error .notRunning, s)
    else
      match s.descriptor.process with
      | none => (.ok (), s.modify fun d => { d with status := .idle })
      | some child =>
        let (killed, w) := s.world.kill b child.index
        match killed with
        | .error reason => (.error (.process reason), ⟨s.descriptor, w⟩)
        | .ok () =>
          let (waited, w) := w.wait b child.index
          let d := { s.descriptor with process := none, status := .idle }
          match waited with
          | .error reason => (.error (.process reason), ⟨d, w⟩)
          | .ok report =>
            (.ok (), ⟨{ d with lastExit := some report }, w.note [.stopped d.pid report]⟩)

/-- Kill and reap a child that is about to be given up, and give its report if there is one. -/
def reap (b : Backend σ) (child : Child) (pid : UInt32) (w : World σ) :
    Option ExitReport × World σ :=
  let (polled, w) := w.tryWait b child.index
  match polled with
  | .ok (some report) => (some report, w)
  | _ =>
    let (killed, w) := w.kill b child.index
    let w := match killed with
      | .ok () => w
      | .error reason => w.note [.killFailed pid reason]
    let (waited, w) := w.wait b child.index
    match waited with
    | .ok report => (some report, w)
    | .error reason => (none, w.note [.reapFailed pid reason])

/-- Give up everything that the sandbox owns. -/
def teardown (b : Backend σ) (s : Sandbox σ) : Sandbox σ :=
  let (report, w) := match s.descriptor.process with
    | none => (none, s.world)
    | some child => reap b child s.descriptor.pid s.world
  let d := { s.descriptor with
    process := none
    lastExit := report <|> s.descriptor.lastExit
    container := false
    code := none
    pid := 0
    status := .idle
    destroyed := true }
  ⟨d, w.note [.destroyed d.mode]⟩

/-- Destroy the sandbox. -/
def destroy (b : Backend σ) (s : Sandbox σ) : Except Error Unit × Sandbox σ :=
  if s.descriptor.destroyed then (.error .destroyed, s)
  else (.ok (), s.teardown b)

/-- Let the sandbox go out of use, which destroys it if that has not been done. -/
def drop (b : Backend σ) (s : Sandbox σ) : Sandbox σ :=
  if s.descriptor.destroyed then s else s.teardown b

/-! ## Operations that look at the sandbox -/

/-- The current status. -/
def status (b : Backend σ) (s : Sandbox σ) : Status × Sandbox σ :=
  let s := s.refresh b
  (s.descriptor.status, s)

/-- The process of the child that is owned after a poll, zero if there is none. -/
def livePid (b : Backend σ) (s : Sandbox σ) : UInt32 × Sandbox σ :=
  let s := s.refresh b
  (if s.descriptor.process.isSome then s.descriptor.pid else 0, s)

/-- A usage of the running command, read with the number of its process; zero if there is
none. -/
def usage (b : Backend σ) (ask : World σ → UInt32 → UInt64 × World σ) (s : Sandbox σ) :
    UInt64 × Sandbox σ :=
  let (pid, s) := s.livePid b
  if pid = 0 then (0, s)
  else
    let (answer, w) := ask s.world pid
    (answer, { s with world := w })

/-- The resident size of the running command, zero if there is none. -/
def memory (b : Backend σ) (s : Sandbox σ) : UInt64 × Sandbox σ :=
  s.usage b (World.memoryUsage b)

/-- The processor time of the running command, zero if there is none. -/
def cpuTime (b : Backend σ) (s : Sandbox σ) : UInt64 × Sandbox σ :=
  s.usage b (World.cpuTime b)

/-- How the last command ended. -/
def lastExit (b : Backend σ) (s : Sandbox σ) : Option ExitReport × Sandbox σ :=
  let s := s.refresh b
  (s.descriptor.lastExit, s)

end Sandbox

end Confine
