import Confine.System.Request

set_option autoImplicit false

/-! # The course of time

Processes do what they have to do in turns, each until it has to wait or has had its share. When
all of them wait, the time moves on to the moment when the first of them wakes up. Work takes no
time; a process that does a lot of it without end counts as one that works for ever. -/

namespace Confine.System

/-- How many requests a process may make in its turn. -/
def share : Nat := 256

/-- How much a process may do at one moment before it counts as working for ever. -/
def mostEffort : Nat := 16000000

/-- How much of an effort a request is. Processes ask for caught signals or for their own number now
and then while they work, and so these stand for the work. -/
def effortOf : Call → Nat
  | .caught => 32
  | .self => 8
  | .write _ bytes => 1 + bytes.length / 16
  | .read _ count => 1 + count / 64
  | _ => 1

/-- The system after a process has made some of an effort. -/
def tire (s : System) (p : Process) (c : Call) : System :=
  s.update p.pid fun p => { p with effort := p.effort + effortOf c }

/-- The system after a process has started a child that does a task, and the child's number. -/
def startChild (s : System) (p : Process) (task : Task) : Nat × System :=
  let child : Process := { p with
    pid := s.nextPid, parent := p.pid, task, pending := [], wakes := none, effort := 0 }
  (s.nextPid, { s with nextPid := s.nextPid + 1, processes := s.processes ++ [child] })

/-- Let a process do the next thing. The flag tells whether it could. -/
def step (s : System) (pid : Nat) : Bool × System :=
  match s.process? pid with
  | none => (false, s)
  | some p =>
    if !p.isAlive ∨ p.stopped ∨ p.spins then (false, s)
    else if mostEffort < p.effort then (false, s.spinFor p)
    else
      match p.task with
      | .exit status => (true, s.finish pid (.exited (Int32.ofNat (status % 256))))
      | .fork task resume =>
        let (child, s) := s.startChild p task
        (true, s.update pid fun p => { p with task := resume (.ok child) })
      | .call c resume =>
        match s.perform p c with
        | .blocked s => (false, s)
        | .answered answer s =>
          let goesOn (p : Process) : Process :=
            if p.isAlive then { p with task := resume answer } else p
          (true, (s.tire p c).update pid goesOn)

/-- Let a process do several things, until it has to wait. The flag tells whether it could do
any. -/
def turn (s : System) (pid : Nat) : Nat → Bool × System
  | 0 => (true, s)
  | steps + 1 =>
    match s.step pid with
    | (false, s) => (false, s)
    | (true, s) => (true, (s.turn pid steps).2)

/-- Let each of some processes do several things. The flag tells whether any could. -/
def turns (s : System) : List Nat → Bool × System
  | [] => (false, s)
  | pid :: pids =>
    let (moved, s) := s.turn pid share
    let (others, s) := s.turns pids
    (moved || others, s)

/-- When the next process wakes up. -/
def nextWake? (s : System) : Option Nat :=
  (s.processes.filterMap fun p => if p.isAlive && !p.stopped then p.wakes else none).min?

/-- The system at a later time. Processes that have worked until then for longer than their limit
allows are killed: without a warning if the hard limit is reached. -/
def atTime (s : System) (time : Nat) : System :=
  let rested (p : Process) : Process := { p with effort := 0 }
  let killedIfSpent (s : System) (p : Process) : System :=
    if p.isAlive && p.spins && p.wakes.any (· ≤ time) then
      let cap := p.cap .cpuTime
      s.finish p.pid (.killed (if cap.soft = cap.hard then 9 else 24))
    else s
  s.processes.foldl killedIfSpent { s with now := time, processes := s.processes.map rested }

/-- Let time pass up to a goal, or to the moment when the owner gets a signal. The first number
bounds how often processes take their turns. -/
def advance (goal : Nat) : Nat → System → System
  | 0, s => s
  | rounds + 1, s =>
    let known := s.signals.length
    let (moved, s) := s.turns (s.processes.map Process.pid)
    if known < s.signals.length then s
    else if moved then advance goal rounds s
    else
      match s.nextWake? with
      | some time => if time ≤ goal then advance goal rounds (s.atTime time) else s.atTime goal
      | none => s.atTime goal

/-- How often processes may take their turns while time passes. -/
def mostRounds : Nat := 1000000

/-- Let time pass up to a goal, or to the moment when the owner gets a signal. -/
def passTo (s : System) (goal : Nat) : System :=
  advance goal mostRounds s

end Confine.System
