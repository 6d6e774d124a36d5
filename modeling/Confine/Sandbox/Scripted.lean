import Confine.Sandbox.Supervision

set_option autoImplicit false

/-! # A backend that follows a script

To try a sandbox without any process, this backend answers from a script: each child has its
own, with an exit that becomes visible after a number of polls and failures that can be
switched on. Usage is read off two lists, whose last number repeats. The interrupt comes once a
given number of memory readings has been made. -/

namespace Confine.Sandbox

/-- The script of a child. -/
structure Script where
  /-- How it ends, if it does. -/
  exit : Option ExitReport := none
  /-- How many polls are answered before the end becomes visible. -/
  exitAfter : Nat := 0
  /-- The failure of polls. -/
  failPoll : Option String := none
  /-- The failure of kills. -/
  failKill : Option String := none
  /-- The failure of waits. -/
  failWait : Option String := none
  deriving DecidableEq, Repr, Inhabited

namespace Script

/-- Answer a poll. -/
def tryWait (c : Script) : Except String (Option ExitReport) × Script :=
  match c.failPoll with
  | some reason => (.error reason, c)
  | none =>
    if c.exit.isSome ∧ c.exitAfter > 0 then (.ok none, { c with exitAfter := c.exitAfter - 1 })
    else (.ok c.exit, c)

/-- Answer a kill. A child that has not ended yet is ended by it. -/
def kill (c : Script) : Except String Unit × Script :=
  match c.failKill with
  | some reason => (.error reason, c)
  | none =>
    if c.exit.isNone ∨ c.exitAfter > 0 then
      (.ok (), { c with exit := some (.killed 9), exitAfter := 0 })
    else (.ok (), c)

/-- Answer a wait. -/
def wait (c : Script) : Except String ExitReport :=
  match c.failWait, c.exit with
  | some reason, _ => .error reason
  | none, some report => .ok report
  | none, none => .error "still running"

end Script

/-- The state of the backend. -/
structure Scripted where
  /-- The scripts of the children to come. -/
  scripts : List Script := []
  /-- The scripts of the children that were started. -/
  children : List Script := []
  /-- The readings of resident sizes to come. -/
  memory : List UInt64 := []
  /-- The readings of processor time to come. -/
  cpuTime : List UInt64 := []
  /-- The failure of containers. -/
  failContainer : Option String := none
  /-- The failure of starts. -/
  failSpawn : Option String := none
  /-- The number of readings of resident sizes so far. -/
  memoryReadings : Nat := 0
  /-- The number of such readings at which the interrupt comes. -/
  interruptAt : Option Nat := none
  deriving Inhabited

namespace Scripted

/-- The process number of the first child. -/
def firstPid : Nat := 1001

/-- The next reading of a list and the list after it. The last reading stays. -/
def nextReading (fallback : UInt64) : List UInt64 → UInt64 × List UInt64
  | [] => (fallback, [])
  | [last] => (last, [last])
  | reading :: rest => (reading, rest)

/-- Let a child answer, and keep its script after the answer. -/
def ask {α : Type} (t : Scripted) (child : Nat) (answer : Script → α × Script) : α × Scripted :=
  let (a, script) := answer (t.children.getD child {})
  (a, { t with children := t.children.set child script })

/-- Start a child with the next script, or with an empty one. -/
def start (t : Scripted) : UInt32 × Scripted :=
  let script := t.scripts.headD {}
  (UInt32.ofNat (firstPid + t.children.length),
    { t with scripts := t.scripts.tail, children := t.children ++ [script] })

/-- The backend. -/
def backend : Backend Scripted where
  createContainer _ t :=
    match t.failContainer with
    | some reason => (.error reason, t)
    | none => (.ok false, t)
  spawn _ _ _ t :=
    match t.failSpawn with
    | some reason => (.error reason, t)
    | none =>
      let (pid, t) := t.start
      (.ok pid, t)
  tryWait child t := t.ask child Script.tryWait
  kill child t := t.ask child Script.kill
  wait child t := t.ask child fun c => (c.wait, c)
  memoryUsage pid t :=
    let (reading, memory) := nextReading (pid.toUInt64 * 1024) t.memory
    (reading, { t with memory, memoryReadings := t.memoryReadings + 1 })
  cpuTime _ t :=
    let (reading, cpuTime) := nextReading 15 t.cpuTime
    (reading, { t with cpuTime })
  announce _ _ := []

/-- The clock of the script: time itself changes nothing. -/
def clock : Clock Scripted where
  elapse _ t := t
  interrupted t := t.interruptAt.any (· ≤ t.memoryReadings)
  now _ := 0

end Scripted

end Confine.Sandbox
