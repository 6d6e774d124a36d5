import Confine.System.Process

set_option autoImplicit false

/-! # Signals

A signal ends a process unless the process has it ignored or catches it. Some signals do nothing
to a process that has made no arrangements, and some stop it until it is told to go on. Two of
them cannot be caught. -/

namespace Confine.System

/-- The largest number of a signal. -/
def lastSignal : Nat := 64

/-- The signal that ends a process whatever it does about signals. -/
def killSignal : Nat := 9

/-- The signal of a pipe at whose other end nobody reads. -/
def pipeSignal : Nat := 13

/-- The signal of a file that grows larger than any may be. -/
def sizeSignal : Nat := 25

/-- The signal that stops a process whatever it does about signals. -/
def stopSignal : Nat := 19

/-- The signal that lets a stopped process go on. -/
def continueSignal : Nat := 18

/-- The signals that do nothing unless they are caught. -/
def harmlessSignals : List Nat := [17, 18, 23, 28]

/-- The signals that stop a process unless they are caught. -/
def stoppingSignals : List Nat := [20, 21, 22]

/-- Send a signal to a process. -/
def deliver (s : System) (pid n : Nat) : System :=
  match s.process? pid with
  | none => s
  | some p =>
    if n = 0 ∨ !p.isAlive then s
    else if n = killSignal then s.finish pid (.killed 9)
    else if n = stopSignal then s.update pid fun p => { p with stopped := true }
    else
      let s := if n = continueSignal then s.update pid fun p => { p with stopped := false } else s
      match p.disposition n with
      | .ignored => s
      | .caught => s.update pid fun p => { p with pending := p.pending ++ [n] }
      | .usual =>
        if n ∈ harmlessSignals then s
        else if n ∈ stoppingSignals then s.update pid fun p => { p with stopped := true }
        else s.finish pid (.killed (Int32.ofNat n))

/-- Send a signal to what a number names: a process, or the owner of the first processes. Numbers
of several processes name nothing here. -/
def send (s : System) (target : Int) (n : Nat) : Except Fault Unit × System :=
  let pid := target.toNat
  if lastSignal < n then (.error .invalid, s)
  else if target ≤ 0 then (.error .noProcess, s)
  else if pid = s.owner then
    (.ok (), if n = 0 then s else { s with signals := (s.now, n) :: s.signals })
  else if (s.process? pid).isSome then (.ok (), s.deliver pid n)
  else (.error .noProcess, s)

end Confine.System
