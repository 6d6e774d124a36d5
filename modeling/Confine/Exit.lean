set_option autoImplicit false

/-! # How a process ended

An `ExitReport` has an exit code, a terminating signal, or neither. `ofWaitStatus` reads one
off the number with which the system reports a change of state: its low seven bits hold the
signal, the next byte the exit code, and a process that was merely stopped has neither. -/

namespace Confine

/-- How a sandboxed process ended. -/
structure ExitReport where
  /-- The exit code, if the process ended by itself. -/
  code : Option Int32
  /-- The signal that ended the process. -/
  signal : Option Int32
  deriving DecidableEq, Repr

/-- The names of the signals that have one, by their number. -/
def signalNames : List (Int32 × String) :=
  [ (1, "SIGHUP"), (2, "SIGINT"), (3, "SIGQUIT"), (4, "SIGILL"), (5, "SIGTRAP"),
    (6, "SIGABRT"), (7, "SIGBUS"), (8, "SIGFPE"), (9, "SIGKILL"), (10, "SIGUSR1"),
    (11, "SIGSEGV"), (12, "SIGUSR2"), (13, "SIGPIPE"), (14, "SIGALRM"), (15, "SIGTERM"),
    (16, "SIGSTKFLT"), (17, "SIGCHLD"), (18, "SIGCONT"), (19, "SIGSTOP"), (20, "SIGTSTP"),
    (21, "SIGTTIN"), (22, "SIGTTOU"), (23, "SIGURG"), (24, "SIGXCPU"), (25, "SIGXFSZ"),
    (26, "SIGVTALRM"), (27, "SIGPROF"), (28, "SIGWINCH"), (29, "SIGIO"), (30, "SIGPWR"),
    (31, "SIGSYS") ]

/-- The name of a signal, or its number where it has none. -/
def signalName (signal : Int32) : String :=
  (signalNames.lookup signal).getD s!"signal {signal}"

/-- What is said about a process that a signal has ended, for the signals with a name. -/
def signalTexts : List String :=
  [ "Hangup", "Interrupt", "Quit", "Illegal instruction", "Trace/breakpoint trap", "Aborted",
    "Bus error", "Floating point exception", "Killed", "User defined signal 1",
    "Segmentation fault", "User defined signal 2", "Broken pipe", "Alarm clock", "Terminated",
    "Stack fault", "Child exited", "Continued", "Stopped (signal)", "Stopped",
    "Stopped (tty input)", "Stopped (tty output)", "Urgent I/O condition",
    "CPU time limit exceeded", "File size limit exceeded", "Virtual timer expired",
    "Profiling timer expired", "Window changed", "I/O possible", "Power failure",
    "Bad system call" ]

/-- What is said about a process that a signal has ended. -/
def signalText (n : Nat) : String :=
  if 34 ≤ n ∧ n ≤ 64 then s!"Real-time signal {n - 34}"
  else (signalTexts[n - 1]?).getD s!"Unknown signal {n}"

namespace ExitReport

/-- The report of a process that exited with a code. -/
def exited (code : Int32) : ExitReport :=
  ⟨some code, none⟩

/-- The report of a process that a signal ended. -/
def killed (signal : Int32) : ExitReport :=
  ⟨none, some signal⟩

/-- Whether the process ended by itself with code zero. -/
def success (r : ExitReport) : Bool :=
  r.code == some 0

/-- Whether a signal ended the process, or it left no code. -/
def abnormal (r : ExitReport) : Bool :=
  r.signal.isSome || r.code.isNone

/-- The report in words. A code is named before a signal. -/
def describe (r : ExitReport) : String :=
  match r.code, r.signal with
  | some code, _ => s!"exited with code {code}"
  | none, some signal => "killed by " ++ signalName signal
  | none, none => "terminated"

/-- The report with both its fields, as log lines show it. -/
def render (r : ExitReport) : String :=
  let field (o : Option Int32) := o.elim "None" fun n => s!"Some({n})"
  s!"ExitReport \x7b code: {field r.code}, signal: {field r.signal} \x7d"

/-- The report that a wait status stands for. The low seven bits are zero for an ordinary exit
and all ones for a process that did not end; anything else is the terminating signal. -/
def ofWaitStatus (status : Int32) : ExitReport :=
  let bits := status.toInt.emod UInt32.size
  let low := bits.emod 128
  if low = 0 then exited (Int32.ofInt ((bits / 256).emod 256))
  else if low = 127 then ⟨none, none⟩
  else killed (Int32.ofInt low)

end ExitReport

end Confine
