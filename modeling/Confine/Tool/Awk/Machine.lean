import Confine.Tool.Awk.Pattern
import Confine.Tool.Clock
import Confine.Tool.Feed

set_option autoImplicit false

/-! # The state of a run

What a program has in hand while it runs: variables and arrays, the record and its fields, and the
files and commands that it reads from and prints to. Fields are cut off only when they are asked
for, and the record is put together again when a field is given a value. -/

namespace Confine.Tool.Awk

open Confine.System (Work)
open Confine.Text (Regex)

/-! ## What there is -/

/-- What a name stands for. -/
inductive Cell where
  /-- A value. -/
  | scalar (v : Value)
  /-- An array, by its number. -/
  | array (n : Nat)
  /-- Nothing yet; but it will be this array if it becomes one. -/
  | undecided (n : Nat)

/-- Something that is printed to. -/
structure Writer where
  /-- Its name. -/
  name : List Char
  /-- Its descriptor. -/
  descriptor : Nat
  /-- The process behind it. -/
  child : Option Nat := none
  /-- What has to be written, the latest first. -/
  held : List (List Char) := []

/-- Something that is read from. -/
structure Reader where
  /-- Its name. -/
  name : List Char
  /-- Its descriptor. -/
  descriptor : Nat
  /-- The process behind it. -/
  child : Option Nat := none
  /-- What was read but not taken. -/
  held : List Char := []
  /-- Whether there is no more to read. -/
  isOver : Bool := false

/-- What a program has in hand. -/
structure Machine where
  /-- The program. -/
  program : Program
  /-- The variables, by their names. -/
  globals : List (String × Cell) := []
  /-- The variables of the function that is carried out. -/
  locals : List (String × Cell) := []
  /-- The arrays. -/
  tables : Array Table := #[]
  /-- The record. -/
  record : Value := .nothing
  /-- The fields of the record, if they were asked for. -/
  fields : Option (Array Value) := none
  /-- What is printed to. -/
  writers : List Writer := []
  /-- What is read from. -/
  readers : List Reader := []
  /-- The file that the records come from. -/
  input : Option Reader := none
  /-- The number of the argument that comes next. -/
  nextArgument : Nat := 1
  /-- Whether a file among the arguments was opened. -/
  hasFile : Bool := false
  /-- The rules for records between two that are in force, by their numbers. -/
  inForce : List Nat := []
  /-- The patterns that were used. -/
  patterns : List (List Char × Regex) := []
  /-- What random numbers come from. -/
  seed : Nat := 0

/-- Why something is not carried out to its end. -/
inductive Stop where
  /-- The next record is to be taken. -/
  | next
  /-- The next file is to be taken. -/
  | nextFile
  /-- The program ends. -/
  | exit
  /-- A function gives a value. -/
  | give (v : Value)
  /-- A loop is left. -/
  | leave
  /-- A loop begins again. -/
  | again

/-- A part of a run. -/
abbrev Run (α : Type) : Type :=
  ExceptT Stop (StateT Machine Chore) α

namespace Run

variable {α : Type}

/-- Do something that does not depend on the program. -/
def chore (c : Chore α) : Run α :=
  ExceptT.lift (StateT.lift c)

/-- End with a complaint and the number two. -/
def fail (text : String) : Run α :=
  chore (Chore.fail text 2)

/-! ## Variables -/

/-- What a name stands for. -/
def cell? (name : String) : Run (Option Cell) := do
  let m ← get
  return (m.locals.lookup name).or (m.globals.lookup name)

/-- A list in which a name has one thing. -/
def withEntry (name : String) (c : Cell) : List (String × Cell) → List (String × Cell)
  | [] => [(name, c)]
  | e :: rest => if e.1 == name then (name, c) :: rest else e :: withEntry name c rest

/-- Let a name stand for something. -/
def setCell (name : String) (c : Cell) : Run Unit :=
  modify fun m =>
    if (m.locals.lookup name).isSome then { m with locals := withEntry name c m.locals }
    else { m with globals := withEntry name c m.globals }

/-- The value of a variable that is not `NF`. -/
def plainValue (name : String) : Run Value := do
  match ← cell? name with
  | some (.scalar v) => return v
  | some (.array _) => fail s!"line 1: illegal reference to array {name}"
  | _ => return .nothing

/-- The format for numbers that a variable holds. -/
def numberForm (name : String) : Run (List Char) := do
  match ← plainValue name with
  | .text cs | .input cs => return cs
  | _ => return "%.6g".toList

/-- The text that a value counts as, with a way of writing numbers. -/
def textBy (form : String) (v : Value) : Run (List Char) := do
  match v with
  | .number _ => return v.textBy (← numberForm form)
  | _ => return v.textBy []

/-- The text that a value counts as. -/
def textOf (v : Value) : Run (List Char) :=
  textBy "CONVFMT" v

/-- The text of a variable. -/
def textAt (name : String) : Run (List Char) := do
  textOf (← plainValue name)

/-- Say where a run-time error has happened, and end. -/
def failInRun (text : String) : Run α := do
  let file := String.ofList (← textAt "FILENAME")
  let number := String.ofList (← textAt "FNR")
  let all := String.ofList (← textAt "NR")
  fail ("run time error: " ++ text ++ "\n\tFILENAME=\"" ++ file ++ "\" FNR=" ++ number ++
    " NR=" ++ all)

/-! ## Arrays -/

/-- The number of a new array. -/
def newTable : Run Nat := do
  let n := (← get).tables.size
  modify fun m => { m with tables := m.tables.push {} }
  return n

/-- The number of the array that a name stands for. -/
def tableOf (name : String) : Run Nat := do
  match ← cell? name with
  | some (.array n) => return n
  | some (.undecided n) =>
    setCell name (.array n)
    return n
  | some (.scalar .nothing) | none =>
    let n ← newTable
    setCell name (.array n)
    return n
  | some (.scalar _) => fail s!"line 1: illegal reference to variable {name}"

/-- An array. -/
def table (n : Nat) : Run Table := do
  return (← get).tables.getD n {}

/-- Change an array. -/
def changeTable (n : Nat) (change : Table → Table) : Run Unit :=
  modify fun m => { m with tables := m.tables.modify n change }

/-- Give a value to an item of an array. -/
def setItem (array : String) (key : List Char) (v : Value) : Run Unit := do
  changeTable (← tableOf array) fun t => t.insert key v

/-! ## Patterns -/

/-- How many patterns are kept. -/
def mostPatterns : Nat := 50

/-- The regular expression of a pattern. -/
def pattern (cs : List Char) : Run Regex := do
  match (← get).patterns.lookup cs with
  | some e => return e
  | none =>
    match patternOf cs with
    | .ok e =>
      modify fun m => { m with patterns := ((cs, e) :: m.patterns).take mostPatterns }
      return e
    | .error fault =>
      let cause := fault.message
      fail (s!"line 1: regular expression compile failed ({cause})\n" ++ String.ofList cs)

/-- The pieces of a text between separators. -/
def cut (s : Separator) (cs : List Char) : Run (List (List Char)) := do
  match s with
  | .pattern p => return pieces (← pattern p) cs
  | _ => return ((s.cut cs).toOption).getD []

/-! ## Fields -/

/-- The fields of the record. -/
def fields : Run (Array Value) := do
  match (← get).fields with
  | some fs => return fs
  | none =>
    let cs ← textOf (← get).record
    let fs := ((← cut (Separator.ofText (← textAt "FS")) cs).map Value.input).toArray
    modify fun m => { m with fields := some fs }
    return fs

/-- Have another record. -/
def setRecord (v : Value) : Run Unit :=
  modify fun m => { m with record := v, fields := none }

/-- Put the record together from its fields. -/
def joinFields (fs : Array Value) : Run Unit := do
  let texts ← fs.toList.mapM textOf
  let between ← textAt "OFS"
  modify fun m =>
    { m with record := .input (between.intercalate texts), fields := some fs }

/-- Some fields brought to a number of fields. -/
def resized (n : Nat) (fs : Array Value) : Array Value :=
  if n ≤ fs.size then fs.extract 0 n else fs ++ Array.replicate (n - fs.size) (.text [])

/-- The largest number of a field. -/
def mostFields : Int := 1000000

/-- The number of a field that a value asks for. -/
def fieldNumber (v : Value) : Run Nat := do
  let n := kept v.toNumber
  if n < 0 then failInRun s!"negative field index ${n}"
  return (min n mostFields).toNat

/-- What a field holds. -/
def field (n : Nat) : Run Value := do
  if n = 0 then return (← get).record
  else return (← fields).getD (n - 1) .nothing

/-- Give a value to a field. -/
def setField (n : Nat) (v : Value) : Run Unit := do
  if n = 0 then setRecord (.input (← textOf v))
  else
    let fs ← fields
    joinFields ((resized (max n fs.size) fs).set! (n - 1) v)

/-- The value of a variable. -/
def value (name : String) : Run Value := do
  if name = "NF" then return Value.ofNat (← fields).size else plainValue name

/-- Give a value to a variable. The fields of the record are cut off before what separates them
changes. -/
def setValue (name : String) (v : Value) : Run Unit := do
  if name = "NF" then
    let fs ← fields
    joinFields (resized (← fieldNumber v) fs)
  else
    if name = "FS" then
      let _ ← fields
    match ← cell? name with
    | some (.array _) => fail s!"line 1: illegal reference to array {name}"
    | _ => setCell name (.scalar v)

/-- One more in a variable. -/
def count (name : String) : Run Unit := do
  setValue name (.number ((← plainValue name).toNumber + 1.0))

/-! ## Printing -/

/-- Write what is held for something that is printed to. -/
def pour (w : Writer) : Run Writer := do
  let octets := w.held.reverse.flatten
  if !octets.isEmpty then
    let _ ← chore (Chore.work (Work.write w.descriptor (Text.toBytes octets)))
  return { w with held := [] }

/-- Write everything that is held. -/
def pourAll : Run Unit := do
  chore Chore.flushOrFail
  let writers ← (← get).writers.mapM pour
  modify fun m => { m with writers }

/-- Change what is printed to. -/
def changeWriter (name : List Char) (change : Writer → Writer) : Run Unit :=
  modify fun m =>
    { m with writers := m.writers.map fun w => if w.name == name then change w else w }

/-! ## Commands -/

/-- Run a command as a child that does something first. -/
def start (text : List Char) (before : Work Unit) : Run (Except Fault Nat) := do
  let setting ← chore do return (← get).setting
  let m ← get
  let others := m.writers.map Writer.descriptor ++ m.readers.map Reader.descriptor
  let child : Work Nat := do
    before
    others.forM fun n => do
      let _ ← Work.call (.close n)
    let argv := ["/bin/sh", "-c", String.ofList text]
    match ← setting.become setting.vars argv with
    | .ok status => pure status
    | .error _ => pure 127
  chore (Chore.work (Work.fork child.toTask))

/-- The number that tells how a child has ended. -/
def outcomeOf (report : ExitReport) : Nat :=
  match report.code, report.signal with
  | some code, _ => code.toInt.toNat
  | none, some n => 256 + n.toInt.toNat
  | none, none => 0

/-- Wait for a child. -/
def await (child : Nat) : Run Nat := do
  return outcomeOf (← chore (waitFor child))

/-- Run a command and wait for it. -/
def runCommand (text : List Char) : Run Nat := do
  pourAll
  match ← start text (pure ()) with
  | .ok child => await child
  | .error _ => return 255

/-- Run a command with one end of a pipe: with its standard output if the flag says so, and
otherwise with its standard input. It gives the other end. -/
def piped (text : List Char) (writes : Bool) : Run (Nat × Nat) := do
  pourAll
  match ← chore (Chore.call .pipe) with
  | .error fault => fail s!"cannot open pipe: {fault.text}"
  | .ok (r, w) =>
    let (mine, other, standard) := if writes then (r, w, 1) else (w, r, 0)
    let before : Work Unit := do
      let _ ← Work.call (.replace other standard)
      let _ ← Work.call (.close other)
      let _ ← Work.call (.close mine)
    match ← start text before with
    | .error fault => fail s!"cannot fork: {fault.text}"
    | .ok child =>
      chore (Chore.close other)
      return (mine, child)

/-- What can be printed to under a name, which is opened if it is not yet. -/
def writer (s : Sink) (name : List Char) : Run Unit := do
  if (← get).writers.any fun w => w.name == name then return
  let w : Writer ← match s with
    | .command =>
      let (descriptor, child) ← piped name false
      pure { name, descriptor, child := some child }
    | _ =>
      let path := String.ofList name
      let how : System.Opening := if s = .fileEnd then .forAppending else .forWriting
      match ← chore (Chore.openAt path how) with
      | .ok descriptor => pure { name, descriptor }
      | .error fault =>
        fail ("cannot open \"" ++ path ++ "\" for output (" ++ fault.text ++ ")")
  modify fun m => { m with writers := m.writers ++ [w] }

/-- Print a text. -/
def print (out : Option (Sink × List Char)) (text : List Char) : Run Unit := do
  let toStandard : Run Unit := chore do
    Chore.put text
    Feed.settle
  match out with
  | none => toStandard
  | some (s, name) =>
    let path := String.ofList name
    if s ≠ .command ∧ (path = "/dev/stdout" ∨ path = "-") then toStandard
    else if s ≠ .command ∧ path = "/dev/stderr" then
      chore Chore.flushOrFail
      chore (Chore.warn (String.ofList text))
    else
      writer s name
      changeWriter name fun w => { w with held := text :: w.held }

/-! ## Reading -/

/-- Read more. -/
def fill (r : Reader) : Run Reader := do
  chore Feed.settle
  match ← chore (Chore.call (.read r.descriptor Work.readSize)) with
  | .ok [] | .error _ => return { r with isOver := true }
  | .ok bytes => return { r with held := r.held ++ Text.ofBytes bytes }

/-- Read everything. The number bounds how often. -/
def fillUp : Nat → Reader → Run Reader
  | 0, r => pure r
  | steps + 1, r => do if r.isOver then pure r else fillUp steps (← fill r)

/-- Take what comes before a character, and drop the character. -/
def takeUntil (ending : Char) : Nat → Reader → Run (Option (List Char) × Reader)
  | 0, r => pure (none, r)
  | steps + 1, r => do
    let line := r.held.takeWhile (· ≠ ending)
    match r.held.drop line.length with
    | _ :: rest => pure (some line, { r with held := rest })
    | [] =>
      if r.isOver then pure (if line.isEmpty then none else some line, { r with held := [] })
      else takeUntil ending steps (← fill r)

/-- Cut the next paragraph off a text. -/
def paragraphAt? (cs : List Char) : Option (List Char × List Char) :=
  let rec go : List Char → List Char × List Char
    | '\n' :: '\n' :: rest => ([], rest)
    | c :: rest =>
      let (text, after) := go rest
      (c :: text, after)
    | [] => ([], [])
  let cs := cs.dropWhile (· == '\n')
  if cs.isEmpty then none
  else
    let (text, after) := go cs
    some (if text.getLast? = some '\n' then text.dropLast else text, after)

/-- Take the next record. -/
def takeRecord (r : Reader) : Run (Option (List Char) × Reader) := do
  match ← textAt "RS" with
  | [c] => takeUntil c Work.mostReads r
  | [] =>
    let r ← fillUp Work.mostReads r
    match paragraphAt? r.held with
    | some (text, rest) => return (some text, { r with held := rest })
    | none => return (none, { r with held := [] })
  | cs =>
    let e ← pattern cs
    let r ← fillUp Work.mostReads r
    let line := lineOf r.held
    match r.held, e.search? line with
    | [], _ => return (none, r)
    | _, some (a, found) =>
      if found.place = a then return (some r.held, { r with held := [] })
      else return (some (r.held.take a), { r with held := r.held.drop found.place })
    | _, none => return (some r.held, { r with held := [] })

/-- What can be read from under a name, which is opened if it is not yet. -/
def reader? (isCommand : Bool) (name : List Char) : Run (Option Reader) := do
  match (← get).readers.find? fun r => r.name == name with
  | some r => return some r
  | none =>
    let opened : Option Reader ← if isCommand then do
        let (descriptor, child) ← piped name true
        pure (some { name, descriptor, child := some child })
      else do
        let path := String.ofList name
        if path = "-" ∨ path = "/dev/stdin" then pure (some { name, descriptor := 0 })
        else
          match ← chore (Chore.openAt path .forReading) with
          | .ok descriptor => pure (some { name, descriptor })
          | .error _ => pure none
    match opened with
    | some r => modify fun m => { m with readers := m.readers ++ [r] }
    | none => pure ()
    return opened

/-- Take the next record from a file or a command: nothing if it cannot be opened. -/
def takeFrom (isCommand : Bool) (name : List Char) : Run (Option (Option (List Char))) := do
  match ← reader? isCommand name with
  | none => return none
  | some r =>
    let (text, r) ← takeRecord r
    modify fun m =>
      { m with readers := m.readers.map fun s => if s.name == name then r else s }
    return some text

/-! ## The arguments -/

/-- The text of an assignment with its escapes carried out. -/
def assigned (cs : List Char) : List Char :=
  (Awk.textAt (2 * cs.length + 2) (cs.flatMap (fun c => if c = '"' then ['\\', c] else [c]) ++ ['"'])
    ).elim cs Prod.fst

/-- Carry out an assignment if a text is one, and tell whether it is. -/
def assignFrom (text : List Char) : Run Bool := do
  let name := text.takeWhile (· ≠ '=')
  if name.head?.any isNameStart && name.all isNameChar && name.length < text.length then
    setValue (String.ofList name) (.input (assigned (text.drop (name.length + 1))))
    return true
  else return false

/-- Open the next file among the arguments, or the standard input if there is none. It tells whether
there is something. The number bounds how many arguments there are. -/
def openInput : Nat → Run Bool
  | 0 => return false
  | steps + 1 => do
    let m ← get
    let most := (kept (← plainValue "ARGC").toNumber).toNat
    if most ≤ m.nextArgument then
      if m.hasFile then return false
      modify fun m => { m with hasFile := true, input := some { name := [], descriptor := 0 } }
      return true
    else
      modify fun m => { m with nextArgument := m.nextArgument + 1 }
      let t ← table (← tableOf "ARGV")
      let text ← textOf ((t.find? (wholeText m.nextArgument)).getD .nothing)
      if text.isEmpty then openInput steps
      else if ← assignFrom text then openInput steps
      else
        let path := String.ofList text
        let descriptor ← if path = "-" ∨ path = "/dev/stdin" then pure 0 else do
          match ← chore (Chore.openAt path .forReading) with
          | .ok n => pure n
          | .error fault => fail ("cannot open \"" ++ path ++ "\" (" ++ fault.text ++ ")")
        modify fun m =>
          { m with hasFile := true, input := some { name := text, descriptor } }
        setValue "FILENAME" (.text text)
        setValue "FNR" (.number 0.0)
        return true

/-- Leave the file that records come from. -/
def closeInput : Run Unit := do
  match (← get).input with
  | some r => if r.descriptor ≠ 0 then chore (Chore.close r.descriptor)
  | none => pure ()
  modify fun m => { m with input := none }

/-- Take the next record of the files among the arguments. The number bounds how many there are. -/
def takeInput : Nat → Run (Option (List Char))
  | 0 => return none
  | steps + 1 => do
    match (← get).input with
    | none => if ← openInput Work.mostReads then takeInput steps else return none
    | some r =>
      let (text, r) ← takeRecord r
      modify fun m => { m with input := some r }
      match text with
      | some text =>
        count "NR"
        count "FNR"
        return some text
      | none =>
        closeInput
        takeInput steps

/-! ## Closing -/

/-- Close what is printed to. -/
def closeWriter (w : Writer) : Run Nat := do
  let w ← pour w
  chore (Chore.close w.descriptor)
  match w.child with
  | some child => await child
  | none => return 0

/-- Close what is read from. -/
def closeReader (r : Reader) : Run Nat := do
  if r.descriptor ≠ 0 then chore (Chore.close r.descriptor)
  match r.child with
  | some child => await child
  | none => return 0

/-- Close what has a name. It gives the number that a command has ended with, and nothing if nothing
has that name. -/
def close (name : List Char) : Run (Option Nat) := do
  let m ← get
  let writers := m.writers.filter fun w => w.name == name
  let readers := m.readers.filter fun r => r.name == name
  modify fun m => { m with
    writers := m.writers.filter fun w => w.name != name
    readers := m.readers.filter fun r => r.name != name }
  let first ← writers.mapM closeWriter
  let second ← readers.mapM closeReader
  return (first ++ second).getLast?

/-- Close everything that is printed to. -/
def closeAll : Run Unit := do
  let writers := (← get).writers
  modify fun m => { m with writers := [] }
  let _ ← writers.mapM closeWriter

end Run

end Confine.Tool.Awk
