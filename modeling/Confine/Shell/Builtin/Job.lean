import Confine.Shell.Builtin.Signal

set_option autoImplicit false

/-! # Jobs

Commands that are not waited for, and the commands `wait`, `jobs`, `fg` and `bg`. -/

namespace Confine.Shell

open Act

/-- Make a job of processes that are not waited for. -/
def addJob (pids : List Nat) : Act Unit := do
  let jobs := (← get).jobs
  let jobs := match jobs.find? fun job => job.isWaitedFor && job.running.isEmpty with
    | some old => jobs.filter fun job => job.number ≠ old.number
    | none => jobs
  let used := jobs.map Job.number
  let number := ((List.range (used.length + 1)).find? fun n => !used.contains (n + 1)).getD 0 + 1
  let pid := pids.getLastD 0
  modify fun s => { s with jobs := jobs ++ [{ number, pid, running := pids }], lastJob := some pid }

/-- Wait for any child, and note its end. It tells whether a signal came first. The process of a
job that is waited for in particular says what has ended it. -/
def awaitAny (particular : List Nat) : Act Bool := do
  match ← call (.wait none .untilSignal) with
  | .ok (some (pid, report)) =>
    noteEnd pid report
    if particular.contains pid then
      match signalText? report with
      | some text => let _ ← write 2 (text ++ "\n").toList
      | none => pure ()
    pure false
  | .ok none => pure false
  | .error .interrupted => pure true
  | .error _ =>
    modify fun s => { s with jobs := s.jobs.map fun job => { job with running := [] } }
    pure false

/-- What a signal that came first makes of the command `wait`. -/
def signalStatus : Act Nat := do
  let pending ← call .caught
  modify fun s => { s with caught := s.caught ++ pending }
  return 128 + ((← get).caught.headD 0)

/-- Wait until all processes of some jobs have ended; the flag tells whether all jobs are meant. It
gives an outcome if a signal comes first. The number bounds how many children end. -/
def awaitJobs (numbers : Option Nat) : Nat → Act (Option Nat)
  | 0 => pure none
  | bound + 1 => do
    let jobs := (← get).jobs.filter fun job => numbers.all (· == job.number)
    let running := jobs.flatMap Job.running
    if running.isEmpty then
      let isMeant (job : Job) : Bool := numbers.all fun n => n == job.number
      let waitedFor (job : Job) : Job := { job with isWaitedFor := job.isWaitedFor || isMeant job }
      modify fun s => { s with jobs := s.jobs.map waitedFor }
      pure none
    else
      let particular := if numbers.isSome then running else []
      let signalled ← awaitAny particular
      if signalled then return some (← signalStatus) else awaitJobs numbers bound

/-- Wait for one job after another, and tell the outcome of the last. -/
def waitEach : List String → Nat → Act Nat
  | [], status => pure status
  | arg :: args, _ => do
    let job ←
      if arg.startsWith "%" then do pure (some (← jobOf arg))
      else
        let pid ← numberOf arg
        pure ((← get).jobs.find? fun job => job.pid == pid)
    match job with
    | none => waitEach args 127
    | some job =>
      match ← awaitJobs (some job.number) mostChildren with
      | some status => pure status
      | none =>
        let found := (← get).jobs.find? fun other => other.number == job.number
        waitEach args (((found.bind Job.ended).map statusOf).getD 127)

/-- The command `wait`. -/
def wait : Builtin := fun args => do
  let (_, args) ← options "" args
  match args with
  | [] => return (← awaitJobs none mostChildren).getD 0
  | args => waitEach args 127

/-- How a job is doing, in words. -/
def Job.words (job : Job) : String :=
  if !job.running.isEmpty then "Running"
  else
    match job.ended with
    | some report =>
      match report.code, report.signal with
      | some 0, _ => "Done"
      | some code, _ => s!"Done({code})"
      | none, some n => signalText n.toInt.toNat
      | none, none => "Done"
    | none => "Done"

/-- Show a job, and forget it if it has ended. The flags ask for the number of its process and for
nothing but that. -/
def showJob (job : Job) (withPid onlyPid : Bool) : Act Unit := do
  if onlyPid then say (toString job.pid)
  else
    let jobs := (← get).jobs
    let mark :=
      if (jobs.getLast?.map Job.number) = some job.number then "+"
      else if (jobs.dropLast.getLast?.map Job.number) = some job.number then "-"
      else " "
    let pid := if withPid then s!"{job.pid} " else ""
    let line := s!"[{job.number}] {mark} {pid}{job.words}"
    say (line ++ String.ofList (List.replicate (33 - line.length) ' '))
  if job.running.isEmpty then
    modify fun s => { s with jobs := s.jobs.filter fun other => other.number ≠ job.number }

/-- The command `jobs`. -/
def jobs : Builtin := fun args => do
  let (chosen, args) ← options "lp" args
  let withPid := chosen.any fun o => o.1 == 'l'
  let onlyPid := chosen.any fun o => o.1 == 'p'
  reap mostChildren
  if args.isEmpty then (← get).jobs.reverse.forM fun job => showJob job withPid onlyPid
  else args.forM fun arg => do showJob (← jobOf arg) withPid onlyPid
  pure 0

/-- The commands `fg` and `bg`, for which this shell has no terminal. -/
def toTerminal : Builtin := fun args => do
  let (_, args) ← options "" args
  match args with
  | [] =>
    if (← get).jobs.isEmpty then fail "No current job"
    else fail "job (null) not created under job control"
  | spec :: _ =>
    let _ ← jobOf spec
    fail s!"job {spec} not created under job control"

end Confine.Shell
