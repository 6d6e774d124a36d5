import Confine.Exit
import Confine.Journal
import Confine.Limits

set_option autoImplicit false

/-! # Backends

A sandbox reaches the outside only through a `Backend`: it starts child processes, polls,
kills and reaps them, and reads their usage. The backend's own state is a type parameter, and
every request gives a new state, so a backend may answer as it likes at any moment. Child
processes are numbered from zero in the order in which they were started.

`World` is what a sandbox knows of the outside: the backend's state, how many children there
were, every request with its answer, and the journal. -/

namespace Confine.Sandbox

/-- Something that runs commands. -/
structure Backend (σ : Type) where
  /-- Create a limit container, or tell that the platform has none. -/
  createContainer : Limits → σ → Except String Bool × σ
  /-- Start a command under a plan; the flag tells whether there is a container. -/
  spawn : String → Plan → Bool → σ → Except String UInt32 × σ
  /-- Ask whether a child has exited. -/
  tryWait : Nat → σ → Except String (Option ExitReport) × σ
  /-- Kill a child. -/
  kill : Nat → σ → Except String Unit × σ
  /-- Wait until a child has exited. -/
  wait : Nat → σ → Except String ExitReport × σ
  /-- The resident size in bytes of the process with a number. -/
  memoryUsage : UInt32 → σ → UInt64 × σ
  /-- The processor time in milliseconds of the process with a number. -/
  cpuTime : UInt32 → σ → UInt64 × σ
  /-- What is told of a command that was started as the process with a number. -/
  announce : String → UInt32 → List Event

/-- A request to a backend and its answer. -/
inductive Exchange where
  /-- A limit container was asked for. -/
  | createContainer (answer : Except String Bool)
  /-- A command was to be started. -/
  | spawn (command : String) (plan : Plan) (answer : Except String UInt32)
  /-- A child was polled. -/
  | tryWait (child : Nat) (answer : Except String (Option ExitReport))
  /-- A child was to be killed. -/
  | kill (child : Nat) (answer : Except String Unit)
  /-- A child was waited for. -/
  | wait (child : Nat) (answer : Except String ExitReport)
  /-- The resident size of a process was asked for. -/
  | memoryUsage (pid : UInt32) (answer : UInt64)
  /-- The processor time of a process was asked for. -/
  | cpuTime (pid : UInt32) (answer : UInt64)

/-- What a sandbox knows of the outside. -/
structure World (σ : Type) where
  /-- The state of the backend. -/
  state : σ
  /-- The number of children that were started. -/
  spawned : Nat := 0
  /-- All requests with their answers, in order. -/
  exchanges : List Exchange := []
  /-- What happened, in order. -/
  journal : List Event := []

namespace World

variable {σ : Type} (b : Backend σ) (w : World σ)

/-- Note events in the journal. -/
def note (w : World σ) (events : List Event) : World σ :=
  { w with journal := w.journal ++ events }

/-- Keep a request and its answer, and the state that it left. -/
def record (w : World σ) (state : σ) (e : Exchange) : World σ :=
  { w with state := state, exchanges := w.exchanges ++ [e] }

/-- Ask for a limit container. -/
def createContainer (limits : Limits) : Except String Bool × World σ :=
  let (answer, state) := b.createContainer limits w.state
  (answer, w.record state (.createContainer answer))

/-- Start a command. On success the child's number is the number of children before it. -/
def spawn (command : String) (plan : Plan) (container : Bool) :
    Except String UInt32 × World σ :=
  let (answer, state) := b.spawn command plan container w.state
  let after := w.record state (.spawn command plan answer)
  match answer with
  | .error _ => (answer, after)
  | .ok pid =>
    (answer, { after with spawned := after.spawned + 1 }.note (b.announce command pid))

/-- Poll a child. -/
def tryWait (child : Nat) : Except String (Option ExitReport) × World σ :=
  let (answer, state) := b.tryWait child w.state
  (answer, w.record state (.tryWait child answer))

/-- Kill a child. -/
def kill (child : Nat) : Except String Unit × World σ :=
  let (answer, state) := b.kill child w.state
  (answer, w.record state (.kill child answer))

/-- Wait for a child. -/
def wait (child : Nat) : Except String ExitReport × World σ :=
  let (answer, state) := b.wait child w.state
  (answer, w.record state (.wait child answer))

/-- Read the resident size of a process. -/
def memoryUsage (pid : UInt32) : UInt64 × World σ :=
  let (answer, state) := b.memoryUsage pid w.state
  (answer, w.record state (.memoryUsage pid answer))

/-- Read the processor time of a process. -/
def cpuTime (pid : UInt32) : UInt64 × World σ :=
  let (answer, state) := b.cpuTime pid w.state
  (answer, w.record state (.cpuTime pid answer))

end World

end Confine.Sandbox
