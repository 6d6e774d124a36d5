import Confine.Tool.Basic

set_option autoImplicit false

/-! # Lines as they come

A feed gives the lines of some files one after another, and reads no further than it has to. So a
tool that goes through lines can work in the middle of a pipe that never ends. -/

namespace Confine.Tool

open Confine.System (Work)
open Chore

/-- What is still to be read of some files. -/
structure Feed where
  /-- The files that are not open yet. -/
  paths : List String
  /-- The file that is open, and its descriptor. -/
  source : Option (String × Nat) := none
  /-- What was read but not taken. -/
  held : List Char := []
  /-- The next line, if it is known already. -/
  ready : Option (List Char) := none

namespace Feed

/-- How much is kept back before it is written. -/
def mostKept : Nat := 4096

/-- Write what was said so far if it is much. -/
def settle : Chore Unit := do
  let said := (← get).said
  if mostKept ≤ said.foldl (fun n cs => n + cs.length) 0 then flushOrFail

/-- Open the next file that can be opened. What is said about the others is given. -/
def openNext (complain : String → Fault → Chore Unit) : List String → Chore Feed
  | [] => pure { paths := [] }
  | "-" :: rest => pure { paths := rest, source := some ("-", 0) }
  | path :: rest => do
    match ← openAt path .forReading with
    | .ok n => pure { paths := rest, source := some (path, n) }
    | .error fault =>
      complain path fault
      openNext complain rest

/-- Close the file that is open. -/
def shut (f : Feed) : Chore Feed := do
  match f.source with
  | some (_, n) => if n ≠ 0 then close n
  | none => pure ()
  return { f with source := none, held := [] }

/-- Take the next line with its end, which the last one of a file may not have. The number bounds
how often something is read. -/
def takeFrom (complain : String → Fault → Chore Unit) (ending : Char) :
    Nat → Feed → Chore (Option (List Char) × Feed)
  | 0, f => pure (none, f)
  | steps + 1, f => do
    let line := f.held.takeWhile (· ≠ ending)
    match f.held.drop line.length with
    | c :: rest => pure (some (line ++ [c]), { f with held := rest })
    | [] =>
      match f.source with
      | none =>
        if f.paths.isEmpty then pure (none, f)
        else takeFrom complain ending steps (← openNext complain f.paths)
      | some (path, n) =>
        settle
        let after (cs : List Char) : Chore (Option (List Char) × Feed) := do
          let f ← f.shut
          if cs.isEmpty then takeFrom complain ending steps f else pure (some cs, f)
        match ← call (.read n Work.readSize) with
        | .ok [] => after f.held
        | .ok bytes =>
          takeFrom complain ending steps { f with held := f.held ++ Text.ofBytes bytes }
        | .error fault =>
          complain path fault
          after []

/-- Take the next line with its end. -/
def next (complain : String → Fault → Chore Unit) (f : Feed) (ending : Char := '\n') :
    Chore (Option (List Char) × Feed) :=
  match f.ready with
  | some line => pure (some line, { f with ready := none })
  | none => takeFrom complain ending Work.mostReads f

/-- Whether nothing is left. It reads on as far as it has to in order to know. -/
def isOver (complain : String → Fault → Chore Unit) (f : Feed) (ending : Char := '\n') :
    Chore (Bool × Feed) := do
  match ← f.next complain ending with
  | (none, f) => pure (true, f)
  | (some line, f) => pure (false, { f with ready := some line })

/-- Say that a file cannot be read, and end with the number one. -/
def usualComplaint (path : String) (fault : Fault) : Chore Unit :=
  spoil s!"{path}: {fault.text}"

/-- Go through all lines with a value that each line changes. The number bounds how many there
are. -/
def foldFrom {σ : Type} (change : σ → List Char → Chore σ)
    (complain : String → Fault → Chore Unit) (ending : Char) : Nat → Feed → σ → Chore σ
  | 0, _, s => pure s
  | steps + 1, f, s => do
    match ← f.next complain ending with
    | (none, _) => pure s
    | (some line, f) => do
      let s ← change s line
      foldFrom change complain ending steps f s

end Feed

/-- Go through all lines of some files with a value that each line changes; through those of the
standard input if there are no files. -/
def foldLines {σ : Type} (paths : List String) (start : σ) (change : σ → List Char → Chore σ)
    (complain : String → Fault → Chore Unit := Feed.usualComplaint) (ending : Char := '\n') :
    Chore σ :=
  let paths := if paths.isEmpty then ["-"] else paths
  Feed.foldFrom change complain ending Work.mostReads { paths } start

/-- Do something with every line of some files. -/
def forLines (paths : List String) (each : List Char → Chore Unit)
    (complain : String → Fault → Chore Unit := Feed.usualComplaint) (ending : Char := '\n') :
    Chore Unit :=
  foldLines paths () (fun _ line => each line) complain ending

/-- A line without its end, and whether it has one. -/
def withoutEnd (line : List Char) (ending : Char := '\n') : List Char × Bool :=
  if line.getLast? = some ending then (line.dropLast, true) else (line, false)

end Confine.Tool
