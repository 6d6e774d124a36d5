import Confine.Path
import Confine.Shell.Builtin.Variable
import Confine.Shell.Format
import Confine.Shell.Test

set_option autoImplicit false

/-! # Output, tests and directories

The commands that write, those that test conditions, and those that change the directory. -/

namespace Confine.Shell

open Act

/-- The command `echo`. -/
def echo : Builtin := fun args => do
  put (echoText args)
  pure 0

/-- The command `printf`. -/
def printf : Builtin := fun args => do
  let (_, args) ← options "" args
  match args with
  | [] => fail "usage: printf format [arg ...]"
  | format :: args =>
    let formatted := formatAll format.toList (args.length + 1) args
    formatted.faults.forM complain
    put formatted.text
    match formatted.broken with
    | some fault => fail fault.message
    | none => return if formatted.faults.isEmpty then 0 else 1

/-- The command `test`; under its other name it wants a bracket at the end. -/
def test (name : String) : Builtin := fun args => do
  if name = "[" ∧ args.getLast? ≠ some "]" then fail "missing ]"
  else
    match ← work (holds (if name = "[" then args.dropLast else args)).run with
    | .ok answer => return if answer then 0 else 1
    | .error cause => fail cause

/-! ## Directories -/

/-- A path with what its dots stand for in place of them. It starts at the root. -/
def resolved (path : String) : String :=
  let place := ((path.toList.splitOn '/').map String.ofList).foldl
    (fun (place : List String) name =>
      if name = "" ∨ name = "." then place
      else if name = ".." then place.drop 1
      else name :: place) []
  "/" ++ "/".intercalate place.reverse

/-- Go to a directory, whose path is taken literally or as its dots say. It tells whether that was
possible. -/
def goTo (path : String) (isLiteral : Bool) : Act Bool := do
  let before := (← get).directory
  let target := if path.startsWith "/" then path else before ++ "/" ++ path
  let goal := if isLiteral then path else resolved target
  match ← call (.changeDirectory (Text.ofOctets goal)) with
  | .error _ => pure false
  | .ok () =>
    let directory ← if isLiteral then do pure (Text.octets (← call .directory)) else pure goal
    let passOn (s : State) (x value : String) : State :=
      (s.assign x value).change x fun v => { v with isPassedOn := true }
    modify fun s => passOn (passOn { s with directory } "OLDPWD" before) "PWD" directory
    pure true

/-- Whether a path is looked for from the current directory only. -/
def isAnchored (path : String) : Bool :=
  match path.toList with
  | '/' :: _ | ['.'] | '.' :: '/' :: _ | ['.', '.'] | '.' :: '.' :: '/' :: _ => true
  | _ => false

/-- Go to the first directory with a path among some places. -/
def goAmong (path : String) (isLiteral : Bool) : List String → Act (Option String)
  | [] => do
    let gone ← goTo path isLiteral
    return if gone then some "" else none
  | place :: places => do
    let full := if place.isEmpty then path else Path.join place path
    match ← look full with
    | .ok status =>
      if status.kind = .directory then
        let gone ← goTo full isLiteral
        return if gone then some place else none
      else goAmong path isLiteral places
    | .error _ => goAmong path isLiteral places

/-- The command `cd`. -/
def cd : Builtin := fun args => do
  let (chosen, args) ← options "LP" args
  let isLiteral := (chosen.getLast?.map Prod.fst) == some 'P'
  let s ← get
  let back := args.head? == some "-"
  let path := match args with
    | [] => (s.value? "HOME").getD ""
    | "-" :: _ => (s.value? "OLDPWD").getD ""
    | path :: _ => path
  let places := match s.value? "CDPATH" with
    | some value => (value.toList.splitOn ':').map String.ofList
    | none => []
  let target := if path.isEmpty then "." else path
  match ← goAmong target isLiteral (if isAnchored target then [] else places) with
  | none => fail s!"can't cd to {path}"
  | some place =>
    if back || !place.isEmpty then say (← get).directory
    pure 0

/-- The command `pwd`. -/
def pwd : Builtin := fun args => do
  let (chosen, _) ← options "LP" args
  if (chosen.getLast?.map Prod.fst) = some 'P' then say (Text.octets (← call .directory))
  else say (← get).directory
  pure 0

/-- The command `times`. Work takes no time here. -/
def times : Builtin := fun _ => do
  say "0m0.000000s 0m0.000000s"
  say "0m0.000000s 0m0.000000s"
  pure 0

end Confine.Shell
