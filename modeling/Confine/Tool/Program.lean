import Confine.Shell.Builtin.Signal
import Confine.Shell.Format
import Confine.Shell.Known
import Confine.Shell.Test
import Confine.Tool.Clock

set_option autoImplicit false

/-! # Tools that run programs

`env` and its like become the program in their arguments, with other variables or other ways with
signals, and `xargs` runs programs with arguments that it reads. The tools whose names are also
those of commands of the shell are here as well: they do not depend on any shell. -/

namespace Confine.Tool

open Confine.System (Work)
open Chore

/-! ## Arguments that are read -/

/-- The arguments that a text holds: words between blanks, in which quotes and backslashes keep
blanks. The kind of a quote that is not closed is given as well, with the words before it. The
number bounds how much there is. -/
def quotedWords : Nat → Option (List Char) → List Char → List String × Option String
  | 0, _, _ => ([], none)
  | _, word, [] => ((word.map fun w => String.ofList w.reverse).toList, none)
  | bound + 1, word, c :: rest =>
    let add (cs : List Char) : Option (List Char) := some (cs.reverse ++ word.getD [])
    if c = '\n' ∨ c = ' ' ∨ c = '\t' then
      let (more, fault) := quotedWords bound none rest
      ((word.map fun w => String.ofList w.reverse).toList ++ more, fault)
    else if c = '\\' then
      match rest with
      | d :: rest => quotedWords bound (add [d]) rest
      | [] => quotedWords bound (add []) []
    else if c = '"' ∨ c = '\x27' then
      let inside := rest.takeWhile fun d => d ≠ c ∧ d ≠ '\n'
      match rest.drop inside.length with
      | d :: after =>
        if d = c then quotedWords bound (add inside) after
        else ([], some (if c = '"' then "double" else "single"))
      | [] => ([], some (if c = '"' then "double" else "single"))
    else quotedWords bound (add [c]) rest

/-! ## Becoming a program -/

/-- Become a program, or complain about it after some words and end. -/
def becomeOrFail (words : String) (vars : List (String × String)) (argv : List String) :
    Chore Unit := do
  flushOrFail
  let become := (← get).setting.become
  match ← work (become vars argv) with
  | .ok status => throw status
  | .error fault =>
    let name := argv.headD ""
    let status := if fault = .notFound then 127 else 126
    fail s!"{words}'{name}': {fault.text}" status

/-- Cut an assignment at its equals sign. -/
def assignment? (text : String) : Option (String × String) :=
  let cs := text.toList
  if cs.contains '=' then
    some (String.ofList (cs.takeWhile (· ≠ '=')), String.ofList ((cs.dropWhile (· ≠ '=')).drop 1))
  else none

/-- The tool `env`. -/
def env : Utility := toWork do
  let p ← parse [⟨'i', false, "ignore-environment", false⟩, ⟨'u', true, "unset", false⟩,
    ⟨'0', false, "null", false⟩, ⟨'C', true, "chdir", false⟩, ⟨'v', false, "debug", false⟩,
    ⟨'S', true, "split-string", false⟩] true 125
  let split := (p.all 'S').flatMap fun text =>
    (quotedWords (text.length + 1) none text.toList).1
  let operands := split ++ p.operands
  let clears := p.has 'i' || operands.head? = some "-"
  let operands := if operands.head? = some "-" then operands.drop 1 else operands
  let setting := (← get).setting
  let given := if clears then [] else setting.vars
  let kept := given.filter fun v => !(p.all 'u').contains v.1
  let sets := (operands.takeWhile fun a => (assignment? a).isSome).filterMap assignment?
  let argv := operands.drop sets.length
  let set (vars : List (String × String)) (v : String × String) : List (String × String) :=
    if vars.any fun w => w.1 == v.1 then
      vars.map fun w => if w.1 == v.1 then v else w
    else vars ++ [v]
  let vars := sets.foldl set kept
  if argv.isEmpty then
    if p.has 'C' then misuse "must specify command with --chdir (-C)" 125
    vars.forM fun v =>
      put ((v.1 ++ "=" ++ v.2).toList ++ if p.has '0' then ['\x00'] else ['\n'])
  else
    if p.has '0' then misuse "cannot specify --null (-0) with command" 125
    if let some directory := p.last? 'C' then
      match ← call (.changeDirectory (Text.ofOctets directory)) with
      | .ok () => pure ()
      | .error fault => fail s!"cannot change directory to '{directory}': {fault.text}" 125
    becomeOrFail "" vars argv

/-- The tool `printenv`. -/
def printenv : Utility := toWork do
  let p ← parse [⟨'0', false, "null", false⟩] true 2
  let ending := if p.has '0' then ['\x00'] else ['\n']
  let vars := (← get).setting.vars
  if p.operands.isEmpty then
    vars.forM fun v => put ((v.1 ++ "=" ++ v.2).toList ++ ending)
  else
    p.operands.forM fun name => do
      match vars.lookup name with
      | some value => put (value.toList ++ ending)
      | none => leave 1

/-- The tool `nohup`. -/
def nohup : Utility := toWork do
  let p ← parse [] true 125
  if p.operands.isEmpty then misuse "missing operand" 125
  let _ ← call (.handle 1 .ignored)
  becomeOrFail "failed to run command " (← get).setting.vars p.operands

/-- The tool `nice`. -/
def nice : Utility := toWork do
  let p ← parse [⟨'n', true, "adjustment", false⟩] true 125
  if p.operands.isEmpty then
    if p.has 'n' then misuse "a command must be given with an adjustment" 125
    say "0"
  else
    let vars := (← get).setting.vars
    becomeOrFail "" vars p.operands

/-- The tool `which`. -/
def which : Utility := toWork do
  let p ← parse [⟨'a', false, "", false⟩, ⟨'s', false, "", false⟩] false 2
  let path := ((← get).setting.vars.lookup "PATH").getD ""
  let isProgram (path : String) : Chore Bool := do
    match ← look path with
    | .ok status => return status.kind == .file && status.permissions &&& 0o111 ≠ 0
    | .error _ => return false
  if p.operands.isEmpty then leave 1
  p.operands.forM fun name => do
    let places := if name.toList.contains '/' then [name]
      else (Shell.programDirectories path).map fun directory =>
        (if directory.isEmpty then "." else directory) ++ "/" ++ name
    let found ← places.filterM isProgram
    if found.isEmpty then leave 1
    else if !p.has 's' then (if p.has 'a' then found else found.take 1).forM say

/-! ## Running programs -/

/-- The pieces of a text between separators, without an empty one at the end. -/
def separated (separator : Char) (cs : List Char) : List String :=
  let pieces := (cs.splitOn separator).map String.ofList
  if pieces.getLast? = some "" then pieces.dropLast else pieces

/-- Put a text in place of a mark in a word. -/
def substituted (mark text word : String) : String :=
  if mark.isEmpty then word else word.replace mark text

/-- Run a program and wait for it to end. What cannot be run is named with the words around it. -/
def launch (named : String → String) (argv : List String) : Chore ExitReport := do
  flushOrFail
  let setting := (← get).setting
  let child : Work Nat := do
    match ← Work.call (.openFile "/dev/null" .forReading 0) with
    | .ok n =>
      let _ ← Work.call (.replace n 0)
      let _ ← Work.call (.close n)
      pure ()
    | .error _ => pure ()
    match ← setting.become setting.vars argv with
    | .ok status => pure status
    | .error fault =>
      let text := setting.name ++ ": " ++ named (argv.headD "") ++ ": " ++ fault.text ++ "\n"
      let _ ← Work.write 2 (Text.toBytes text.toList)
      pure (if fault = .notFound then 127 else 126)
  match ← work (Work.fork child.toTask) with
  | .error fault => fail s!"cannot fork: {fault.text}" 1
  | .ok pid => waitFor pid

/-- Run a program. It tells the number to end with, and whether to go on. -/
def runChild (argv : List String) : Chore (Nat × Bool) := do
  let report ← launch id argv
  let command := argv.headD ""
  match report.code, report.signal with
  | some code, _ =>
    let code := code.toInt.toNat
    if code = 255 then
      complain s!"{command}: exited with status 255; aborting"
      pure (124, false)
    else if code = 126 ∨ code = 127 then pure (code, false)
    else pure (if code = 0 then 0 else 123, true)
  | none, some n =>
    complain s!"{command}: terminated by signal {n}"
    pure (125, false)
  | none, none => pure (0, true)

/-- Run programs one after another. -/
def runChildren : List (List String) → Chore Unit
  | [] => pure ()
  | argv :: rest => do
    let (status, goesOn) ← runChild argv
    if status ≠ 0 then leave status
    if goesOn then runChildren rest else throw status

/-- A list in pieces of the same length, the last of which may be shorter. The number bounds how
many there are. -/
def inPieces {α : Type} (length : Nat) : Nat → List α → List (List α)
  | 0, _ => []
  | _, [] => []
  | bound + 1, xs => xs.take length :: inPieces length bound (xs.drop length)

/-- The tool `xargs`. -/
def xargs : Utility := toWork do
  let p ← parse [⟨'0', false, "null", false⟩, ⟨'d', true, "delimiter", false⟩,
    ⟨'I', true, "replace", false⟩, ⟨'i', false, "", false⟩, ⟨'n', true, "max-args", false⟩,
    ⟨'L', true, "max-lines", false⟩, ⟨'l', false, "", false⟩, ⟨'P', true, "max-procs", false⟩,
    ⟨'r', false, "no-run-if-empty", false⟩, ⟨'t', false, "verbose", false⟩,
    ⟨'x', false, "exit", false⟩, ⟨'s', true, "max-chars", false⟩, ⟨'E', true, "", false⟩,
    ⟨'a', true, "arg-file", false⟩] true
  let command := if p.operands.isEmpty then ["echo"] else p.operands
  let numberOf (c : Char) : Chore (Option Nat) := do
    match p.last? c with
    | none => pure none
    | some text =>
      match natural? text.toList with
      | some 0 => misuse s!"value 0 for -{c} option should be >= 1"
      | some n => pure (some n)
      | none => fail s!"invalid number \"{text}\" for -{c} option"
  let most ← numberOf 'n'
  let lines ← numberOf 'L'
  let octets ← match p.last? 'a' with
    | some path => do pure ((← readOrSpoil path).getD [])
    | none => do pure (← readAll 0).1
  let failOf (kind : String) : Chore Unit :=
    fail (s!"unmatched {kind} quote; by default quotes are special to xargs unless you use " ++
      "the -0 option")
  let wordsOf (cs : List Char) : Chore (List String) := do
    let (words, fault) := quotedWords (cs.length + 1) none cs
    match fault with
    | none => pure words
    | some kind =>
      runChildren ((inPieces (most.getD words.length) (words.length + 1) words).map (command ++ ·))
      failOf kind
      pure []
  let commands ← match p.lastOf? ['I', 'i'] with
    | some c =>
      let mark := if c = 'i' then "\x7b\x7d" else (p.last? 'I').getD ""
      let items ← if p.has '0' then pure (separated '\x00' octets)
        else match p.last? 'd' with
          | some d => pure (separated (d.toList.headD '\n') octets)
          | none => do
            let rows ← (bareLines octets).mapM fun line => do
              let line := line.dropWhile fun c => c == ' ' || c == '\t'
              let quoted := line.flatMap fun c => if c = ' ' ∨ c = '\t' then ['\\', c] else [c]
              pure (← wordsOf quoted)
            pure rows.flatten
      pure (items.map fun item => command.map (substituted mark item))
    | none =>
      let groups ← if p.has '0' then pure [separated '\x00' octets]
        else match p.last? 'd' with
          | some d =>
            let c := match d.toList with
              | '\\' :: 'n' :: _ => '\n'
              | '\\' :: 't' :: _ => '\t'
              | '\\' :: '0' :: _ => '\x00'
              | c :: _ => c
              | [] => '\n'
            pure [separated c octets]
          | none =>
            match lines with
            | none => do pure [← wordsOf octets]
            | some n => do
              let rows := (bareLines octets).filter fun line => !line.all fun c => c == ' '
              (inPieces n (rows.length + 1) rows).mapM fun rows =>
                wordsOf (rows.flatMap (· ++ ['\n']))
      let groups := match most with
        | some n => groups.flatMap fun (items : List String) =>
          inPieces n (items.length + 1) items
        | none => groups
      let groups := groups.filter fun items => !items.isEmpty
      let groups := if groups.isEmpty && !p.has 'r' then [[]] else groups
      pure (groups.map (command ++ ·))
  if p.has 't' then
    commands.forM fun argv => do
      warn (" ".intercalate argv ++ "\n")
      runChildren [argv]
  else runChildren commands

/-! ## Commands that shells know as well -/

/-- A tool that does nothing but end with a number. -/
def ending (status : Nat) : Utility := fun _ => pure status

/-- The tool `echo`. Backslashes mean something only if that is asked for. -/
def echo : Utility := toWork do
  let rec start : Nat → Bool → Bool → List String → Bool × Bool × List String
    | 0, newline, escapes, args => (newline, escapes, args)
    | bound + 1, newline, escapes, args =>
      match args with
      | a :: rest =>
        match a.toList with
        | '-' :: c :: cs =>
          if (c :: cs).all fun c => c == 'n' || c == 'e' || c == 'E' then
            let last := ((c :: cs).filter (· ≠ 'n')).getLast?
            start bound (newline && !(c :: cs).contains 'n')
              (last.elim escapes (· == 'e')) rest
          else (newline, escapes, args)
        | _ => (newline, escapes, args)
      | [] => (newline, escapes, args)
  let args := (← get).setting.arguments
  let (newline, escapes, words) := start (args.length + 1) true false args
  let text := " ".intercalate words
  if escapes then
    let (octets, stops) := Shell.unescape (text.length + 1) text.toList
    put (octets ++ if newline && !stops then ['\n'] else [])
  else put (text.toList ++ if newline then ['\n'] else [])

/-- The tool `printf`. -/
def printf : Utility := toWork do
  match (← get).setting.arguments with
  | [] => misuse "missing operand"
  | format :: args =>
    let f := Shell.formatAll format.toList (args.length + 1) args
    put f.text
    f.faults.forM fun fault => spoil fault
    match f.broken with
    | some reason => spoil reason.message
    | none => pure ()

/-- The tool `test`; under its other name it wants a bracket at the end. -/
def test (bracket : Bool) : Utility := toWork do
  let args := (← get).setting.arguments
  if bracket && args.getLast? ≠ some "]" then fail "missing ']'" 2
  let words := if bracket then args.dropLast else args
  match ← work (Shell.holds words).run with
  | .ok true => leave 0
  | .ok false => leave 1
  | .error reason => fail reason 2

/-- The number of a process that a text writes. -/
def wholePid? (text : String) : Option Int :=
  match text.toList with
  | '-' :: rest => (natural? rest).map fun n => -(n : Int)
  | cs => (natural? cs).map Int.ofNat

/-- The tool `kill`. -/
def kill : Utility := toWork do
  let args := (← get).setting.arguments
  let (spec, targets) := match args with
    | "-s" :: name :: rest => (some name, rest)
    | "--" :: rest => (none, rest)
    | a :: rest =>
      if a.startsWith "-" then (some (String.ofList (a.toList.drop 1)), rest) else (none, a :: rest)
    | [] => (none, [])
  let number ← match spec with
    | none => pure endSignal
    | some name =>
      match Shell.signalNumber? name with
      | some n => pure n
      | none => misuse s!"'{name}': invalid signal"
  if targets.isEmpty then misuse "no process ID specified"
  targets.forM fun target => do
    match wholePid? target with
    | none => spoil s!"'{target}': invalid process id"
    | some pid =>
      match ← call (.signal pid number) with
      | .ok () => pure ()
      | .error fault => spoil s!"sending signal to {target} failed: {fault.text}"

end Confine.Tool
