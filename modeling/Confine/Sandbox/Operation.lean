import Confine.Sandbox.Report

set_option autoImplicit false

/-! # Operations as data

An `Operation` is a request to a sandbox and a `Reply` is what it answers, so that a whole
course of use is a list. The request to run machine code brings along the machine that it finds, so
that in one course of use the host may grant memory at one time and refuse it at another. -/

namespace Confine.Sandbox

variable {σ : Type}

/-- A request to a sandbox. -/
inductive Operation where
  /-- Start a command. -/
  | exec (command : String)
  /-- Run machine code on the host as it is now. -/
  | execCode (host : Machine) (bytes : List UInt8)
  /-- Stop what runs. -/
  | stop
  /-- Destroy the sandbox. -/
  | destroy
  /-- Ask for the status. -/
  | status
  /-- Ask for the resident size. -/
  | memory
  /-- Ask for the processor time. -/
  | cpuTime
  /-- Ask for the process of the last command. -/
  | pid
  /-- Ask for the mode. -/
  | mode
  /-- Ask for the limits. -/
  | limits
  /-- Ask how the last command ended. -/
  | lastExit
  /-- Ask what the last machine code returned. -/
  | lastResult
  /-- Ask whether there is a container and whether the sandbox is destroyed. -/
  | flags
  /-- Ask for everything at once. -/
  | report

/-- What a sandbox answers. -/
inductive Reply where
  /-- Nothing to tell. -/
  | done
  /-- The number of a process. -/
  | pid (pid : UInt32)
  /-- A number that code returned. -/
  | value (value : Int32)
  /-- A status. -/
  | status (status : Status)
  /-- A usage. -/
  | usage (amount : UInt64)
  /-- A mode. -/
  | mode (mode : Mode)
  /-- Limits. -/
  | limits (limits : Limits)
  /-- How the last command ended, if one has. -/
  | lastExit (report : Option ExitReport)
  /-- What the last machine code returned, if any ran. -/
  | lastResult (value : Option Int32)
  /-- Whether there is a container and whether the sandbox is destroyed. -/
  | flags (container destroyed : Bool)
  /-- A report. -/
  | report (report : Report)
  /-- The request was refused. -/
  | failed (cause : Error)
  deriving DecidableEq, Repr

/-- The reply that a result makes. -/
def Reply.ofExcept {α : Type} (reply : α → Reply) : Except Error α → Reply
  | .ok a => reply a
  | .error cause => .failed cause

/-- Carry out a request. -/
def perform (b : Backend σ) (s : Sandbox σ) : Operation → Reply × Sandbox σ
  | .exec command =>
    let (result, s) := s.exec b command
    (.ofExcept .pid result, s)
  | .execCode host bytes =>
    let (result, s) := s.execCode b host bytes
    (.ofExcept .value result, s)
  | .stop =>
    let (result, s) := s.stop b
    (.ofExcept (fun _ => .done) result, s)
  | .destroy =>
    let (result, s) := s.destroy b
    (.ofExcept (fun _ => .done) result, s)
  | .status =>
    let (status, s) := s.status b
    (.status status, s)
  | .memory =>
    let (amount, s) := s.memory b
    (.usage amount, s)
  | .cpuTime =>
    let (amount, s) := s.cpuTime b
    (.usage amount, s)
  | .pid => (.pid s.descriptor.pid, s)
  | .mode => (.mode s.descriptor.mode, s)
  | .limits => (.limits s.descriptor.limits, s)
  | .lastExit =>
    let (exit, s) := s.lastExit b
    (.lastExit exit, s)
  | .lastResult => (.lastResult s.descriptor.lastResult, s)
  | .flags => (.flags s.descriptor.container s.descriptor.destroyed, s)
  | .report =>
    let (report, s) := s.report b
    (.report report, s)

/-- Carry out requests one after another. -/
def performAll (b : Backend σ) (s : Sandbox σ) :
    List Operation → List Reply × Sandbox σ
  | [] => ([], s)
  | operation :: rest =>
    let (reply, s) := s.perform b operation
    let (replies, s) := performAll b s rest
    (reply :: replies, s)

end Confine.Sandbox
