import Confine.Shell.Expand

set_option autoImplicit false

/-! # Redirections

The effect of redirections on the descriptors of a shell. What a descriptor led to before is kept
under a number out of the way, so that it can be brought back when the command is done. -/

namespace Confine.Shell

open Act
open Confine.System (Opening)

/-! ## Targets -/

/-- What a redirection leads to. -/
inductive Target where
  /-- A file. -/
  | path (path : String)
  /-- Another descriptor; `none` is for closing. -/
  | descriptor (n : Option Nat)
  /-- A text, which is expanded only when it is opened. -/
  | text (word : Word)

/-- A redirection whose target is known. -/
structure Route where
  /-- The descriptor. -/
  descriptor : Nat
  /-- What is done with it. -/
  direction : Direction
  /-- What it leads to. -/
  target : Target

/-- Find out what redirections lead to. -/
def routesOf (i : Interpreter) (rs : List Redirection) : Act (List Route) :=
  rs.mapM fun r => do
    let target ←
      match r.direction with
      | .document => pure (.text r.target)
      | .copy =>
        match (← expandText i .atStart r.target).toList with
        | ['-'] => pure (.descriptor none)
        | [c] =>
          if c.isDigit then pure (.descriptor (some (c.toNat - '0'.toNat)))
          else fail "Syntax error: Bad fd number"
        | _ => fail "Syntax error: Bad fd number"
      | _ => do pure (.path (← expandText i .atStart r.target))
    return { descriptor := r.descriptor, direction := r.direction, target }

/-! ## Opening -/

/-- The wording of a fault in front of a file that was to be opened or created. -/
def faultText (creates : Bool) (fault : Fault) : String :=
  if fault = .notFound ∨ fault = .notDirectory then
    if creates then "Directory nonexistent" else "No such file"
  else fault.text

/-- Open a file, or give up. -/
def openFile (path : String) (how : Opening) : Act Nat := do
  match ← openAt path how with
  | .ok n => pure n
  | .error fault =>
    let deed := if how.creates then "create" else "open"
    fail s!"cannot {deed} {path}: {faultText how.creates fault}"

/-- Open a file for writing that must not be there, unless it is no ordinary file. -/
def openNew (path : String) : Act Nat := do
  match ← look path with
  | .error _ => openFile path { writes := true, creates := true, isNew := true }
  | .ok status =>
    if status.kind = .file then fail s!"cannot create {path}: {Fault.exists.text}"
    else openFile path { writes := true }

/-- How many octets of a text fit into a pipe at once. -/
def pipeSize : Nat := 4096

/-- Open a pipe from which a text can be read. A long text is written by a process of its own. -/
def openText (octets : List Char) : Act Nat := do
  match ← call .pipe with
  | .error _ => fail "Pipe call failed"
  | .ok (source, sink) =>
    if octets.length ≤ pipeSize then
      let _ ← write sink octets
    else
      let _ ← fork do
        close source
        let _ ← write sink octets
        throw .exit
    close sink
    pure source

/-- Open what a route leads to. A route from a descriptor to itself opens nothing. -/
def openRoute (i : Interpreter) (r : Route) : Act (Option (Option Nat)) := do
  match r.target with
  | .text word => return some (some (← openText (← expandText i .nowhere word).toList))
  | .descriptor none => return some none
  | .descriptor (some n) => return if n = r.descriptor then none else some (some n)
  | .path path =>
    let n ← match r.direction with
      | .read => openFile path .forReading
      | .both => openFile path { reads := true, writes := true, creates := true }
      | .append => openFile path .forAppending
      | .overwrite => openFile path .forWriting
      | _ => if (← get).has 'C' then openNew path else openFile path .forWriting
    return some (some n)

/-! ## Routing -/

/-- What a descriptor led to before it was redirected. -/
inductive Former where
  /-- Nothing, and it is closed again afterwards. -/
  | closed
  /-- Nothing, and it leads to nothing now. -/
  | stillClosed
  /-- What another descriptor leads to now. -/
  | kept (n : Nat)

/-- The former targets of descriptors. -/
abbrev Formers := List (Nat × Former)

/-- The first number for what is kept out of the way. -/
def firstKept : Nat := 10

/-- Keep what a descriptor leads to out of the way. A descriptor that cannot be kept is closed even
so. -/
def keep (descriptor : Nat) : Act Former := do
  match ← call (.duplicate descriptor firstKept true) with
  | .ok n =>
    close descriptor
    pure (.kept n)
  | .error .badDescriptor => pure .closed
  | .error fault =>
    close descriptor
    fail s!"{descriptor}: {fault.text}"

/-- Lead a descriptor to what was opened. -/
def lead (r : Route) (source : Option Nat) : Act Unit := do
  match r.direction, source with
  | .copy, some n =>
    match ← call (.replace n r.descriptor) with
    | .ok () => pure ()
    | .error fault => fail s!"{n}: {fault.text}"
  | .copy, none => close r.descriptor
  | _, some n =>
    let _ ← call (.replace n r.descriptor)
    close n
  | _, none => pure ()

/-- Open what a route leads to, and keep what its descriptor led to before, unless an earlier route
has done so. -/
def prepare (i : Interpreter) (r : Route) (formers : Formers) :
    Act (Formers × Option (Option Nat)) := do
  match ← openRoute i r with
  | none => pure (formers, none)
  | some source =>
    if (formers.lookup r.descriptor).isSome then pure (formers, some source)
    else if source = some r.descriptor then
      pure ((r.descriptor, .closed) :: formers, some source)
    else
      let former ← keep r.descriptor
      let former := match former, source with
        | .closed, none => Former.stillClosed
        | _, _ => former
      pure ((r.descriptor, former) :: formers, some source)

/-- Bring back what descriptors led to before. -/
def bringBack (formers : Formers) : Act Unit :=
  formers.forM fun (n, former) =>
    match former with
    | .closed => close n
    | .stillClosed => pure ()
    | .kept source => moveTo source n

/-- Drop what descriptors led to before. -/
def dropFormers (formers : Formers) : Act Unit :=
  formers.forM fun (_, former) =>
    match former with
    | .kept source => close source
    | _ => pure ()

/-- Lead a descriptor to what was opened, unless it is that already. -/
def leadTo (r : Route) : Option (Option Nat) → Act Unit
  | none => pure ()
  | some source => if source = some r.descriptor then pure () else lead r source

/-- Follow routes one after another, up to the first that fails. Whatever was kept is known also
after a failure. -/
def followAll (i : Interpreter) : List Route → Formers → Act (Formers × Bool)
  | [], formers => pure (formers, true)
  | r :: rest, formers => do
    match ← attempt (prepare i r formers) with
    | .error .failure => pure (formers, false)
    | .error halt => throw halt
    | .ok (formers, source) =>
      match ← attempt (leadTo r source) with
      | .error .failure => pure (formers, false)
      | .error halt => throw halt
      | .ok () => followAll i rest formers

/-- Follow routes for good. -/
def followForGood (i : Interpreter) (rs : List Route) : Act Unit :=
  rs.forM fun r => do leadTo r (← openRoute i r)

end Confine.Shell
