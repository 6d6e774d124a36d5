import Confine.Location
import Confine.Sandbox.Supervision
import Confine.System.Schedule
import Confine.Userland

set_option autoImplicit false

/-! # A host that runs shell commands

This backend runs each command in a shell of its own, as a process of a system that belongs to the
host, under the limits of its plan. The processes go on while the host lets time pass. They can
send signals to the host itself, which may interrupt it or be the end of it. -/

namespace Confine.Sandbox

/-- A host. -/
structure Host where
  /-- The system in which commands run. -/
  system : System := {}
  /-- The variables that commands are given. -/
  env : Environment := []
  /-- The numbers of the processes that were started, in order. -/
  started : List Nat := []

namespace Host

/-- A host on a system with some files. -/
def on (files : FileTree) (env : Environment) : Host :=
  { system := { files }, env }

/-- The files as they are now. -/
def filesNow (h : Host) : FileTree :=
  h.system.files

/-- What all processes have written so far, to the standard error or to the standard output. -/
def written (h : Host) (toError : Bool) : List UInt8 :=
  ((h.system.written.filter fun w => w.1 == toError).map Prod.snd).reverse.flatten

/-- The host after what was written so far was taken away. -/
def silenced (h : Host) : Host :=
  { h with system := { h.system with written := [] } }

/-! ## Signals to the host -/

/-- The signal that interrupts a host. -/
def interruptSignal : Nat := 2

/-- The signals that do nothing to a host. -/
def harmless : List Nat := interruptSignal :: System.pipeSignal :: System.harmlessSignals

/-- The signals of faulty access to memory, the first of which a host takes for such an access and
lets go. -/
def accessSignals : List Nat := [7, 11]

/-- Whether some signals, the earliest first, are the end of a host. -/
def endsBy : List Nat → Bool
  | [] => false
  | n :: rest =>
    if harmless.contains n then endsBy rest
    else if accessSignals.contains n then rest.any fun m => !harmless.contains m
    else true

/-- Whether a signal was the end of the host. -/
def isOver (h : Host) : Bool :=
  endsBy (h.system.signals.reverse.map Prod.snd)

/-! ## Starting -/

/-- The limits that a plan sets. A limit on open files above the largest there can be is not
set. -/
def capsOf (plan : Plan) : List (System.Resource × System.Cap) :=
  let both (r : System.Resource) (k : LimitKind) : List (System.Resource × System.Cap) :=
    match (plan.get? k).map UInt64.toNat with
    | none => []
    | some n =>
      if k = .openFiles ∧ System.mostFiles < n then []
      else [(r, { soft := some n, hard := some n })]
  both .memory .memory ++ both .cpuTime .cpuTime ++ both .files .openFiles ++
    both .processes .processes

/-- The fewest open files with which a shell can be started. -/
def fewestFiles : Nat := 4

/-- The address space in bytes that a shell needs for its own code. -/
def imageSpace : Nat := 557056

/-- The address space in bytes that a shell needs to load its library as well. -/
def librarySpace : Nat := 2752512

/-- The address space in bytes that a shell needs to come to its first command. -/
def workingSpace : Nat := 2875392

/-- The task of a shell that cannot load its library. -/
def unlinked (cause : String) : System.Task :=
  System.Work.toTask do
    let text := Userland.unlinked Shell.shellPath cause
    let _ ← System.Work.write 2 (Text.toBytes text.toList)
    pure 127

/-- What a process does that is to be the shell for a command under some limits. -/
def taskOf (h : Host) (command : String) (plan : Plan) : System.Task :=
  let memory := (plan.get? .memory).map UInt64.toNat
  let files := (plan.get? .openFiles).map UInt64.toNat
  let short (bytes : Nat) : Bool := memory.any fun n => decide (n < bytes)
  let crash := System.Work.toTask Userland.crash
  if short imageSpace then crash
  else if files.any fun n => decide (n < fewestFiles) then unlinked Userland.unopened
  else if short librarySpace then unlinked "failed to map segment from shared object"
  else if short workingSpace then crash
  else
    let octets (v : String × String) : String × String := (Text.octets v.1, Text.octets v.2)
    Userland.shellTask (Text.octets command) (h.env.map octets)

/-- How many milliseconds it takes to start a shell. -/
def startTime : Nat := 1

/-- Start a command. Nothing can follow the character that ends strings, so a command with one
in it is refused. -/
def start (h : Host) (command : String) (plan : Plan) : Except String UInt32 × Host :=
  if command.toList.contains '\x00' then (.error "nul byte found in provided data", h)
  else
    let s := h.system
    let pid := s.nextPid
    let about (n : Nat) (channel : System.Channel) : System.Description :=
      { number := s.fresh + n, channel, reads := n == 0, writes := n != 0 }
    let p : System.Process := {
      pid, parent := s.owner
      task := .call (.sleep startTime) fun _ => h.taskOf command plan
      slots := (List.range 3).map fun n => ⟨n, s.fresh + n, false⟩
      directory := s.files.current
      caps := capsOf plan }
    let system := { s with
      nextPid := pid + 1
      fresh := s.fresh + 3
      processes := s.processes ++ [p]
      descriptions := [about 0 (.device .null), about 1 (.output false), about 2 (.output true)] ++
        s.descriptions }
    (.ok (UInt32.ofNat pid), { h with system, started := h.started ++ [pid] })

/-! ## Watching -/

/-- How the process with an index has ended, if it has. Whoever asks after the end of the host is
told that it has, so that nobody goes on waiting. -/
def report? (h : Host) (index : Nat) : Option ExitReport :=
  if h.isOver then some (.exited 0)
  else
    match h.started[index]? >>= h.system.process? with
    | none => none
    | some p => p.ended

/-- The resident size of a process that is alive. -/
def residentSize : UInt64 := 921600

/-- Whether a process that was started has a number and is alive. -/
def isAlive (h : Host) (pid : UInt32) : Bool :=
  (h.started.filterMap h.system.process?).any fun p => UInt32.ofNat p.pid == pid && p.isAlive

/-- Kill the process with an index. -/
def stop (h : Host) (index : Nat) : Host :=
  match h.started[index]? with
  | none => h
  | some pid => { h with system := h.system.deliver pid System.killSignal }

/-- The backend. No platform of this kind has limit containers. -/
def backend : Backend Host where
  createContainer _ h := (.ok false, h)
  spawn command plan _ h := h.start command plan
  tryWait index h := (.ok (h.report? index), h)
  kill index h := (.ok (), h.stop index)
  wait index h :=
    match h.report? index with
    | some report => (.ok report, h)
    | none => (.error "still running", h)
  memoryUsage pid h := (if h.isAlive pid then residentSize else 0, h)
  cpuTime _ h := (0, h)
  announce command pid := [.spawned command pid]

/-- The clock. -/
def clock : Clock Host where
  elapse milliseconds h :=
    { h with system := h.system.passTo (h.system.now + milliseconds.toNat) }
  interrupted h := h.system.signals.any fun s => s.2 == interruptSignal
  now h := UInt64.ofNat h.system.now

/-- How often the time moves on while a host is waiting for its processes to be silent. -/
def mostMoves : Nat := 100000

/-- Let time pass until no process can write to the outside any more. The number bounds how often
the time moves on. -/
def silence : Nat → System → System
  | 0, s => s
  | moves + 1, s =>
    let s := s.passTo s.now
    if !s.isHeard then s
    else
      match s.nextWake? with
      | none => s
      | some time => silence moves (s.passTo time)

/-- Let time pass after the end of the host until no process can write to the outside any more. -/
def settle (h : Host) : Host :=
  { h with system := silence mostMoves h.system.disown }

end Host

end Confine.Sandbox
