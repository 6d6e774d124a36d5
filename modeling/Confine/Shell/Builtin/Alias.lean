import Confine.Shell.Builtin.Basic
import Confine.Shell.Builtin.Variable

set_option autoImplicit false

/-! # Aliases

Words that stand for other text where a command starts, and the commands `alias` and
`unalias`. -/

namespace Confine.Shell

open Act

/-- Show an alias in a form that can be read back. -/
def showAlias (name value : String) : Act Unit :=
  say s!"{name}={singleQuoted value}"

/-- Complain that a word is no alias. -/
def noAlias (command name : String) : Act Unit := do
  let _ ← write 2 s!"{command}: {name} not found\n".toList

/-- The aliases with one more, or with one changed. -/
def withAlias (aliases : List (String × String)) (name value : String) : List (String × String) :=
  if (aliases.lookup name).isSome then
    aliases.map fun a => if a.1 == name then (name, value) else a
  else aliases ++ [(name, value)]

/-- The command `alias`. -/
def nameWords : Builtin := fun args => do
  if args.isEmpty then
    (State.shelved 39 (← get).aliases).forM fun (name, value) => showAlias name value
    pure 0
  else
    let outcomes ← args.mapM fun arg => do
      let aliases := (← get).aliases
      match splitAssignment (String.ofList (arg.toList.drop 1)) with
      | (rest, some value) =>
        let name := String.ofList (arg.toList.take 1) ++ rest
        modify fun s => { s with aliases := withAlias aliases name value }
        pure 0
      | (_, none) =>
        match aliases.lookup arg with
        | some value =>
          showAlias arg value
          pure 0
        | none =>
          noAlias "alias" arg
          pure 1
    return outcomes.foldl max 0

/-- The command `unalias`. -/
def unalias : Builtin := fun args => do
  let (chosen, args) ← options "a" args
  if !chosen.isEmpty then
    modify fun s => { s with aliases := [] }
    pure 0
  else
    let outcomes ← args.mapM fun name => do
      if ((← get).aliases.lookup name).isSome then
        modify fun s => { s with aliases := s.aliases.filter fun a => a.1 ≠ name }
        pure 0
      else
        noAlias "unalias" name
        pure 1
    return outcomes.foldl max 0

end Confine.Shell
