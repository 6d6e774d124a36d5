import Confine.System.Stream
import Confine.Text.Octet

set_option autoImplicit false

/-! # Tools

The small programs that commands call. A tool is given a name, arguments and variables, and works
by requests to the system until it ends with a number. What it writes to its standard output is kept
until it is done, whereas complaints come at once. All texts here are texts of octets. -/

namespace Confine.Tool

open Confine.System (Call Work Status)

/-- What a tool is given. -/
structure Setting where
  /-- The name under which it was called. -/
  name : String
  /-- Its arguments. -/
  arguments : List String
  /-- Its variables. -/
  vars : List (String × String)
  /-- Become another program, with variables and arguments of its own; it gives the number that the
  process then ends with, or why that is not possible. -/
  become : List (String × String) → List String → Work (Except Fault Nat)

/-- What a tool has in hand while it works. -/
structure Bench where
  /-- What it was given. -/
  setting : Setting
  /-- What it has to write, the latest first. -/
  said : List (List Char) := []
  /-- The number that it ends with. -/
  status : Nat := 0

/-- A part of what a tool does. It may end early, with a number. -/
abbrev Chore (α : Type) : Type :=
  ExceptT Nat (StateT Bench Work) α

namespace Chore

variable {α : Type}

/-- Do something that does not depend on the tool. -/
def work (w : Work α) : Chore α :=
  ExceptT.lift (StateT.lift w)

/-- Make a request. -/
def call (c : Call) : Chore c.Answer :=
  work (Work.call c)

/-- The name under which the tool was called. -/
def name : Chore String := do
  return (← get).setting.name

/-- Have octets written at the end. -/
def put (octets : List Char) : Chore Unit :=
  modify fun b => { b with said := octets :: b.said }

/-- Have a line written at the end. -/
def say (line : String) : Chore Unit :=
  put (line ++ "\n").toList

/-- Leave a number to end with. -/
def leave (status : Nat) : Chore Unit :=
  modify fun b => { b with status }

/-- Write to the standard error. -/
def warn (text : String) : Chore Unit := do
  let _ ← work (Work.write 2 (Text.toBytes text.toList))

/-- Complain on the standard error. -/
def complain (text : String) : Chore Unit := do
  warn s!"{← name}: {text}\n"

/-- Complain and end with a number. -/
def fail (text : String) (status : Nat := 1) : Chore α := do
  complain text
  throw status

/-- Complain and end with a number at the end. -/
def spoil (text : String) (status : Nat := 1) : Chore Unit := do
  complain text
  leave status

/-- Complain about a wrong use. -/
def misuse (text : String) (status : Nat := 1) : Chore α := do
  let name ← name
  warn s!"{name}: {text}\nTry '{name} --help' for more information.\n"
  throw status

/-- Write what was said so far. It tells whether that was possible. -/
def flush : Chore (Except Fault Unit) := do
  let octets := (← get).said.reverse.flatten
  modify fun b => { b with said := [] }
  if octets.isEmpty then pure (.ok ()) else work (Work.write 1 (Text.toBytes octets))

/-- Write what was said so far, or complain and end. -/
def flushOrFail : Chore Unit := do
  match ← flush with
  | .ok () => pure ()
  | .error fault => fail s!"write error: {fault.text}"

/-- Do everything, and give the number to end with. -/
def toWork (c : Chore Unit) (s : Setting) : Work Nat := do
  let whole : Chore Unit := do
    try c
    catch status => leave status
    flushOrFail
  let (result, bench) ← (whole.run).run { setting := s }
  match result with
  | .ok () => return bench.status
  | .error status => return status

/-! ## Files -/

/-- Tell what is at a path, or about the link there itself. -/
def look (path : String) (whole : Bool := true) : Chore (Except Fault Status) :=
  call (.look (Text.ofOctets path) whole)

/-- Tell the names in a directory, in order. -/
def namesAt (path : String) : Chore (Except Fault (List String)) := do
  return (← call (.list (Text.ofOctets path))).map fun names =>
    (names.map Text.octets).mergeSort fun a b => decide (a ≤ b)

/-- Open the file at a path. -/
def openAt (path : String) (how : System.Opening) (permissions : Nat := 0o666) :
    Chore (Except Fault Nat) :=
  call (.openFile (Text.ofOctets path) how permissions)

/-- Close a descriptor. -/
def close (descriptor : Nat) : Chore Unit := do
  let _ ← call (.close descriptor)

/-- Read the octets behind a descriptor to the end, or up to a fault. -/
def readAll (descriptor : Nat) : Chore (List Char × Option Fault) := do
  let (bytes, fault) ← work (Work.readAll descriptor)
  return (Text.ofBytes bytes, fault)

/-- Read the octets of a file, or of the standard input. -/
def readFrom (path : String) : Chore (Except Fault (List Char × Option Fault)) := do
  if path = "-" then return .ok (← readAll 0)
  else
    match ← openAt path .forReading with
    | .error fault => return .error fault
    | .ok n =>
      let found ← readAll n
      close n
      return .ok found

/-- Read a file or the standard input, and complain about it in the usual way if that is not
possible: nothing comes of it then. -/
def readOrSpoil (path : String) (status : Nat := 1) : Chore (Option (List Char)) := do
  match ← readFrom path with
  | .error fault =>
    spoil s!"{path}: {fault.text}" status
    pure none
  | .ok (_, some fault) =>
    spoil s!"{path}: {fault.text}" status
    pure none
  | .ok (octets, none) => pure (some octets)

/-- Write octets to a file from its start. -/
def writeTo (path : String) (octets : List Char) (permissions : Nat := 0o666) :
    Chore (Except Fault Unit) := do
  match ← openAt path .forWriting permissions with
  | .error fault => pure (.error fault)
  | .ok n =>
    let result ← work (Work.write n (Text.toBytes octets))
    close n
    pure result

end Chore

/-- A tool: what it does with what it is given, up to the number that it ends with. -/
abbrev Utility := Setting → Work Nat

/-! ## Options -/

/-- An option that a tool knows. -/
structure Flag where
  /-- Its letter, by which it goes even if it has only a long name. -/
  letter : Char
  /-- Whether it takes an argument. -/
  takes : Bool := false
  /-- Its long name, if it has one. -/
  long : String := ""
  /-- Whether its argument can be left out after the long name. -/
  mayTake : Bool := false

/-- The options and the other arguments of a tool. -/
structure Parsed where
  /-- The options, in order, with their arguments. -/
  chosen : List (Char × String) := []
  /-- The other arguments. -/
  operands : List String := []

namespace Parsed

/-- Whether an option was given. -/
def has (p : Parsed) (c : Char) : Bool :=
  p.chosen.any fun o => o.1 == c

/-- The argument with which an option was given last. -/
def last? (p : Parsed) (c : Char) : Option String :=
  ((p.chosen.filter fun o => o.1 == c).getLast?).map Prod.snd

/-- The arguments with which an option was given. -/
def all (p : Parsed) (c : Char) : List String :=
  (p.chosen.filter fun o => o.1 == c).map Prod.snd

/-- The last one of some options that was given. -/
def lastOf? (p : Parsed) (cs : List Char) : Option Char :=
  ((p.chosen.filter fun o => cs.contains o.1).getLast?).map Prod.fst

end Parsed

/-- The letters of one argument as options, with the arguments after it. -/
def lettersOf (flags : List Flag) : List Char → List String →
    Except String (List (Char × String) × List String)
  | [], args => .ok ([], args)
  | c :: rest, args =>
    match flags.find? fun f => f.letter == c with
    | none => .error s!"invalid option -- '{c}'"
    | some f =>
      if f.takes then
        if !rest.isEmpty then .ok ([(c, String.ofList rest)], args)
        else
          match args with
          | a :: args => .ok ([(c, a)], args)
          | [] => .error s!"option requires an argument -- '{c}'"
      else do
        let (more, args) ← lettersOf flags rest args
        .ok ((c, "") :: more, args)

/-- The option with a long name, which may be cut short as long as only one remains possible, and
with the arguments after it. -/
def longOf (flags : List Flag) (text : String) (args : List String) :
    Except String ((Char × String) × List String) :=
  let cs := text.toList
  let name := String.ofList (cs.takeWhile (· ≠ '='))
  let value : Option String := match cs.dropWhile (· ≠ '=') with
    | [] => none
    | _ :: rest => some (String.ofList rest)
  let starting := flags.filter fun f => !f.long.isEmpty && f.long.startsWith name
  let found := match flags.find? fun f => f.long == name with
    | some f => some f
    | none => match starting with
      | [f] => some f
      | _ => none
  match found with
  | none =>
    if starting.length > 1 then
      let names := " ".intercalate (starting.map fun f => s!"'--{f.long}'")
      .error s!"option '--{text}' is ambiguous; possibilities: {names}"
    else .error s!"unrecognized option '--{text}'"
  | some f =>
    if f.takes then
      match value, args with
      | some v, args => .ok ((f.letter, v), args)
      | none, a :: args => .ok ((f.letter, a), args)
      | none, [] => .error s!"option '--{f.long}' requires an argument"
    else if f.mayTake then .ok ((f.letter, value.getD ""), args)
    else if value.isSome then .error s!"option '--{f.long}' doesn't allow an argument"
    else .ok ((f.letter, ""), args)

/-- Tell options from other arguments. In strict order, options end at the first argument that is
none. The number bounds how many arguments there are. -/
def parseFrom (flags : List Flag) (strict : Bool) : Nat → List String → Except String Parsed
  | 0, args => .ok { operands := args }
  | _, [] => .ok {}
  | bound + 1, a :: args =>
    match a.toList with
    | ['-', '-'] => .ok { operands := args }
    | '-' :: '-' :: long => do
      let (o, args) ← longOf flags (String.ofList long) args
      let p ← parseFrom flags strict bound args
      .ok { p with chosen := o :: p.chosen }
    | '-' :: c :: rest => do
      let (os, args) ← lettersOf flags (c :: rest) args
      let p ← parseFrom flags strict bound args
      .ok { p with chosen := os ++ p.chosen }
    | _ =>
      if strict then .ok { operands := a :: args }
      else do
        let p ← parseFrom flags strict bound args
        .ok { p with operands := a :: p.operands }

namespace Chore

/-- Tell the options of a tool from its other arguments. -/
def parse (flags : List Flag) (strict : Bool := false) (status : Nat := 1) : Chore Parsed := do
  let args := (← get).setting.arguments
  match parseFrom flags strict (args.length + 1) args with
  | .ok p => pure p
  | .error text => misuse text status

end Chore

/-! ## Lines -/

/-- The lines of a text, each with its end. The last one may have none. -/
def linesOf (cs : List Char) : List (List Char) :=
  let rec go : List Char → List Char → List (List Char)
    | [], [] => []
    | line, [] => [line.reverse]
    | line, c :: rest =>
      if c = '\n' then (c :: line).reverse :: go [] rest else go (c :: line) rest
  go [] cs

/-- The lines of a text without their ends. -/
def bareLines (cs : List Char) : List (List Char) :=
  (linesOf cs).map fun line => if line.getLast? = some '\n' then line.dropLast else line

/-- A text with blanks in front up to a width. -/
def padLeft (width : Nat) (text : String) : String :=
  String.ofList (List.replicate (width - text.length) ' ') ++ text

/-- The number that decimal digits write. -/
def natural? (cs : List Char) : Option Nat :=
  if cs.isEmpty ∨ !cs.all Char.isDigit then none
  else some (cs.foldl (fun n c => n * 10 + (c.toNat - '0'.toNat)) 0)

/-- A number with a letter after it that multiplies it. -/
def scaled? (text : String) : Option Nat :=
  let cs := text.toList
  let digits := cs.takeWhile Char.isDigit
  let unit? : Option Nat := match String.ofList (cs.drop digits.length) with
    | "" => some 1
    | "b" => some 512
    | "kB" | "KB" => some 1000
    | "k" | "K" | "KiB" => some 1024
    | "MB" => some 1000000
    | "m" | "M" | "MiB" => some 1048576
    | "GB" => some 1000000000
    | "G" | "GiB" => some 1073741824
    | _ => none
  do return (← natural? digits) * (← unit?)

end Confine.Tool
