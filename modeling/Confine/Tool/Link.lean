import Confine.Tool.File

set_option autoImplicit false

/-! # Tools for links

`ln` makes links, and `link` and `unlink` do the same for one name at a time. What a link that is
not symbolic would share with its file is copied. -/

namespace Confine.Tool

open Confine.System (Status)
open Chore

/-- Make a path lead to what a file holds. -/
def shareFile (source goal : String) : Chore (Except Fault Unit) := do
  match ← look source false, ← look goal false with
  | _, .ok _ => pure (.error .exists)
  | .error fault, _ => pure (.error fault)
  | .ok status, _ =>
    match ← readFrom source with
    | .error fault => pure (.error fault)
    | .ok (octets, _) => writeTo goal octets status.permissions

/-- Make one link. -/
def linkOne (p : Parsed) (source goal : String) : Chore Unit := do
  let isSymbolic := p.has 's'
  let kind := if isSymbolic then "symbolic" else "hard"
  let found ← look source false
  match isSymbolic, found with
  | false, .error fault => spoil s!"failed to access '{source}': {fault.text}"
  | _, _ =>
    if !isSymbolic && isKind .directory found then
      spoil s!"{source}: hard link not allowed for directory"
    else
      if p.has 'f' && !isKind .directory (← look goal false) then
        let _ ← call (.remove (Text.ofOctets goal))
      let made ← if isSymbolic then makeLink false source goal else shareFile source goal
      match made with
      | .error fault => spoil s!"failed to create {kind} link '{goal}': {fault.text}"
      | .ok () =>
        let arrow := if isSymbolic then "->" else "=>"
        if p.has 'v' then say s!"'{goal}' {arrow} '{source}'"

/-- The tool `ln`. -/
def ln : Utility := toWork do
  let flag (c : Char) (name : String) : Flag := ⟨c, false, name, false⟩
  let p ← parse [flag 's' "symbolic", flag 'f' "force", flag 'n' "no-dereference",
    flag 'v' "verbose", flag 'T' "no-target-directory", flag 'i' "interactive", flag 'L' "logical",
    flag 'P' "physical", flag 'r' "relative", flag 'b' "",
    ⟨'t', true, "target-directory", false⟩]
  let isPlace (path : String) : Chore Bool := do
    if p.has 'n' && isKind .link (← look path false) then pure false else isDirectory path
  let into (directory : String) (sources : List String) : Chore Unit :=
    sources.forM fun source => linkOne p source (below directory (lastName source))
  match p.last? 't', p.operands with
  | _, [] => misuse "missing file operand"
  | some directory, sources => into directory sources
  | none, [source] => into "." [source]
  | none, [source, goal] =>
    if !p.has 'T' && (← isPlace goal) then into goal [source] else linkOne p source goal
  | none, operands =>
    let target := operands.getLastD ""
    if ← isDirectory target then into target operands.dropLast
    else
      let fault := match ← look target with
        | .ok _ => Fault.notDirectory
        | .error fault => fault
      fail s!"target '{target}': {fault.text}"

/-- The tool `link`. -/
def link : Utility := toWork do
  let p ← parse []
  match p.operands with
  | [] => misuse "missing operand"
  | [a] => misuse s!"missing operand after '{a}'"
  | [a, b] =>
    match ← shareFile a b with
    | .ok () => pure ()
    | .error fault => fail s!"cannot create link '{b}' to '{a}': {fault.text}"
  | _ :: _ :: extra :: _ => misuse s!"extra operand '{extra}'"

/-- The tool `unlink`. -/
def unlink : Utility := toWork do
  let p ← parse []
  match p.operands with
  | [] => misuse "missing operand"
  | [path] =>
    match ← call (.remove (Text.ofOctets path)) with
    | .ok () => pure ()
    | .error fault => fail s!"cannot unlink '{path}': {fault.text}"
  | _ :: extra :: _ => misuse s!"extra operand '{extra}'"

end Confine.Tool
