import Confine.Shell.Act
import Confine.Shell.Reader

set_option autoImplicit false

/-! # Texts as commands

A text is read and run line by line, up to the first line that cannot be read. What is to be done
at the exit of a shell is such a text. -/

namespace Confine.Shell

open Act

/-- Run the lines of a text. The last one can be the last thing that the shell does. -/
def runLines (i : Interpreter) (m : Manner) : List (List Command) → Act Unit
  | [] => pure ()
  | [line] => i.run m (.group line)
  | line :: rest => do
    i.run { m with isLast := false } (.group line)
    runLines i m rest

/-- Run a text as a command, up to the first line that cannot be read. -/
def runText (i : Interpreter) (m : Manner) (text : String) : Act Unit := do
  let (lines, fault) := parse 1 text.toList
  let isOpen := text.toList.getLast? ≠ some '\n'
  runLines i { m with isLast := m.isLast && isOpen && fault.isNone } lines
  match fault with
  | none => pure ()
  | some (line, fault) =>
    modify fun s => { s with line }
    fail fault.message

/-- Do what is to be done at the exit of a shell. The outcome of the shell stays, unless it exits
with another one then or fails. -/
def atExit (i : Interpreter) : Act Unit := do
  let s ← get
  match s.traps.lookup 0 with
  | none => pure ()
  | some action =>
    modify fun s => { s with
      traps := s.traps.filter fun entry => entry.1 ≠ 0, saved := some s.status }
    match ← attempt (runText i {} action) with
    | .error .exit | .error .failure => pure ()
    | _ => leave s.status

/-- Start a shell that does something with a copy of the state, and then what is to be done at its
exit. -/
def forkShell (i : Interpreter) (act : Act Unit) : Act Nat :=
  fork do
    let _ ← attempt act
    atExit i

end Confine.Shell
