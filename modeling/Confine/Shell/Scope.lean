import Confine.Shell.Builtin.Signal
import Confine.Shell.Known
import Confine.Shell.Redirect

set_option autoImplicit false

/-! # Signals, functions and programs

What a shell has set for a signal is done between its commands. A function runs with arguments and
local variables of its own. A program is run by a process that becomes it. -/

namespace Confine.Shell

open Act

/-! ## Signals -/

/-- How many commands a shell carries out before it asks for signals, unless it catches any. -/
def patience : Nat := 32

/-- Do what is to be done for signals, in the order of their numbers. The outcome before counts
again afterwards. -/
def actOn (i : Interpreter) : List Nat → Act Unit
  | [] => pure ()
  | n :: rest => do
    let s ← get
    match s.traps.lookup n with
    | none => pure ()
    | some action =>
      let status := s.saved.getD s.status
      modify fun s => { s with saved := some status }
      ensuring (runText i {} action) (modify fun t => { t with saved := s.saved })
      leave status
    actOn i rest

/-- Ask for signals now and then, and do what is to be done for them. -/
def takeSignals (i : Interpreter) : Act Unit := do
  let s ← get
  let catches := s.traps.any fun entry => !entry.2.isEmpty
  if !catches && s.caught.isEmpty && s.ticks < patience then
    modify fun s => { s with ticks := s.ticks + 1 }
  else
    let pending := s.caught ++ (← call .caught)
    modify fun s => { s with ticks := 0, caught := [] }
    actOn i ((List.range (lastSignal + 1)).filter pending.contains)

/-! ## Functions -/

/-- How deep functions can call one another. -/
def mostCalls : Nat := 1000

/-- The state after the local variables of a function were given up. -/
def withoutLocals (s : State) : State :=
  (s.locals.getD []).foldl (fun s (x, value) =>
    if x = optionsName then
      { s with options := ((value.bind Variable.value).getD "").toList }
    else s.restore x value) s

/-- Run a function with some arguments. -/
def runFunction (i : Interpreter) (m : Manner) (line : Nat) (body : Command)
    (args : List String) : Act Unit := do
  let before ← get
  if mostCalls ≤ before.calls then
    fail s!"Maximum function recursion depth ({mostCalls}) reached"
  modify fun s => { s with
    arguments := args, locals := some [], loops := 0, calls := s.calls + 1, start := some line
    nextArgument := 1, lettersTaken := none }
  let result ← attempt (i.run { isTested := m.isTested } body)
  modify fun s => { withoutLocals s with
    arguments := before.arguments, locals := before.locals, loops := before.loops
    calls := before.calls, start := before.start
    nextArgument := before.nextArgument, lettersTaken := before.lettersTaken }
  match result with
  | .error .return => pure ()
  | other => resume other

/-! ## Programs -/

/-- End the process. -/
def endWith {α : Type} (status : Nat) : Act α :=
  fun _ _ => .exit (status % 256)

/-- Carry out the program that the process has become. -/
def carryOut {α : Type} (i : Interpreter) (image : System.Image) (argv : List String) : Act α := do
  let front := image.front.map Text.octets
  let arguments := if front.isEmpty then argv else front ++ argv.drop 1
  let vars := (← get).passedOn
  endWith (← work (i.execute { program := image.program, arguments, vars }))

/-- The path of the program that reads texts without a mark. -/
def shellPath : String := "/bin/sh"

/-- Become the program at a path, or end. A text without a mark is read by a shell. -/
def become {α : Type} (i : Interpreter) (path : String) (argv : List String) : Act α := do
  match ← call (.become (Text.ofOctets path)) with
  | .ok image => carryOut i image argv
  | .error fault =>
    let result ← if fault = .badFormat then call (.become shellPath) else pure (.error fault)
    match result with
    | .ok image => carryOut i image (shellPath :: path :: argv.drop 1)
    | .error fault =>
      complain (argv.headD "" ++ ": " ++ programFault fault)
      leave (if [.notFound, .notDirectory, .nameTooLong].contains fault then 127 else 126)
      throw .exit

/-- Run the program at a path and wait for its end, unless the shell has nothing to do after
it. -/
def runProgram (i : Interpreter) (m : Manner) (path : String) (argv : List String) : Act Unit := do
  if m.isLast && (← get).traps.all fun entry => entry.2.isEmpty then become i path argv
  else
    let pid ← fork (become i path argv)
    leave (← waitFor [pid])

end Confine.Shell
