import Confine.Tool.Feed
import Confine.Tool.Script

set_option autoImplicit false

/-! # Editing streams

`sed` takes line after line, does what its script says about each, and writes what has become of
it. Besides the line in hand there is a second one that is kept, and texts that wait until the line
is written. -/

namespace Confine.Tool

open Confine.System (Work Status)
open Confine.Text (Regex)
open Chore

/-! ## Replacing -/

namespace Piece

/-- A text in which the case of letters is changed: for all of it, and for the first letter in
another way. It gives what is still to be done to a first letter. -/
def cased (whole first : Option Char) (cs : List Char) : List Char × Option Char :=
  let turn (how : Option Char) (c : Char) : Char :=
    match how with
    | some 'U' | some 'u' => c.toUpper
    | some 'L' | some 'l' => c.toLower
    | _ => c
  match cs with
  | [] => ([], first)
  | c :: rest => (turn (first <|> whole) c :: rest.map (turn whole), none)

/-- What pieces come to for the groups of a match, with changes of case that are in force. -/
def written (group : Nat → List Char) :
    Option Char → Option Char → List Piece → List Char
  | _, _, [] => []
  | whole, first, .case c :: rest =>
    if c = 'E' then written group none none rest
    else if c = 'U' ∨ c = 'L' then written group (some c) first rest
    else written group whole (some c) rest
  | whole, first, .text cs :: rest =>
    let (changed, first) := cased whole first cs
    changed ++ written group whole first rest
  | whole, first, .group n :: rest =>
    let (changed, first) := cased whole first (group n)
    changed ++ written group whole first rest

end Piece

/-- Which matches of an expression are replaced, and by what. -/
structure Replacement where
  /-- The expression. -/
  e : Regex
  /-- What they are replaced by. -/
  pieces : List Piece
  /-- Whether all are replaced from the first on that is. -/
  all : Bool
  /-- The first match that is replaced. -/
  nth : Nat

namespace Replacement

/-- A line from a place on with its matches replaced, after so many matches, of which the last one
may have ended here. It tells whether anything was replaced. The number bounds the places. -/
def applyFrom (s : Replacement) (line : Regex.Line) :
    Nat → Nat → Nat → Bool → List Char × Bool
  | 0, place, _, _ => ((line.text.extract place line.text.size).toList, false)
  | bound + 1, place, count, endsHere =>
    let size := line.text.size
    let text (a b : Nat) : List Char := (line.text.extract a b).toList
    match s.e.search? line place with
    | none => (text place size, false)
    | some (start, r) =>
      let isEmpty := r.place == start
      let onward (done : List Char) (count : Nat) (isDone : Bool) : List Char × Bool :=
        if isEmpty then
          if size ≤ start then (text place start ++ done, isDone)
          else
            let (rest, more) := s.applyFrom line bound (start + 1) count false
            (text place start ++ done ++ text start (start + 1) ++ rest, isDone || more)
        else
          let (rest, more) := s.applyFrom line bound r.place count true
          (text place start ++ done ++ rest, isDone || more)
      if isEmpty && endsHere && start == place then onward [] count false
      else if count + 1 < s.nth then onward (text start r.place) (count + 1) false
      else
        let group (n : Nat) : List Char := if n = 0 then text start r.place else r.piece line n
        let done := Piece.written group none none s.pieces
        if s.all then onward done (count + 1) true
        else (text place start ++ done ++ text r.place size, true)

/-- A line with its matches replaced, and whether there were any. -/
def apply (s : Replacement) (line : Regex.Line) : List Char × Bool :=
  s.applyFrom line (line.text.size + 2) 0 0 false

end Replacement

/-! ## The editor -/

/-- Something that is written after the line. -/
inductive Waiting where
  /-- A text. -/
  | text (cs : List Char)
  /-- What is in a file. -/
  | file (path : String)

/-- A file that lines are written to. -/
structure Sink where
  /-- Its name in the script. -/
  path : String
  /-- Its descriptor. -/
  descriptor : Nat
  /-- Whether what was written last lacks an end. -/
  owesEnd : Bool := false

/-- What an editor has in hand. -/
structure Editor where
  /-- Its script. -/
  script : Array Instruction
  /-- Whether lines are not written by themselves. -/
  isQuiet : Bool
  /-- Whether every file is taken by itself. -/
  isSeparate : Bool
  /-- What is put after the name of a file to keep it in, if files are changed in place. -/
  inPlace : Option String
  /-- The character at the end of lines. -/
  ending : Char
  /-- The width at which shown lines are broken. -/
  width : Nat
  /-- The files that were not begun. -/
  paths : List String
  /-- What is still to be read of those that were. -/
  feed : Feed := { paths := [] }
  /-- The file that is read. -/
  path : String := "-"
  /-- The number of the line. -/
  number : Nat := 0
  /-- The line. -/
  space : List Char := []
  /-- Whether the line has an end. -/
  hasEnd : Bool := true
  /-- The line that is kept. -/
  hold : List Char := []
  /-- Whether anything was replaced since the line was read. -/
  hasReplaced : Bool := false
  /-- The instructions whose pairs of addresses hold, each with the last line if that is known. -/
  ranges : List (Nat × Option Nat) := []
  /-- What is written after the line, the latest first. -/
  waiting : List Waiting := []
  /-- The expression that was used last. -/
  last : Option (Regex × Bool) := none
  /-- Whether what was written last lacks an end. -/
  owesEnd : Bool := false
  /-- What was written in place of a file, the latest first. -/
  edited : List (List Char) := []
  /-- The files that are written. -/
  sinks : List Sink := []
  /-- The files of which lines are read one by one. -/
  sources : List (String × Feed) := []

/-- A part of what an editor does. -/
abbrev Editing (α : Type) : Type :=
  StateT Editor Chore α

namespace Editing

/-- Write octets to the output. -/
def out (cs : List Char) : Editing Unit := do
  if (← get).inPlace.isSome then modify fun ed => { ed with edited := cs :: ed.edited }
  else Chore.put cs

/-- Write the end that is missing after what was written last. -/
def completeEnd : Editing Unit := do
  let ed ← get
  if ed.owesEnd then
    out [ed.ending]
    modify fun ed => { ed with owesEnd := false }

/-- Write a line. -/
def emit (cs : List Char) (hasEnd : Bool := true) : Editing Unit := do
  completeEnd
  let ending := (← get).ending
  out (cs ++ if hasEnd then [ending] else [])
  modify fun ed => { ed with owesEnd := !hasEnd }

/-- Write the line in hand. -/
def emitSpace : Editing Unit := do
  let ed ← get
  emit ed.space ed.hasEnd

/-- Write a line to a file of the script. -/
def emitTo (path : String) (cs : List Char) (hasEnd : Bool) : Editing Unit := do
  let ed ← get
  let ends (b : Bool) : List Char := if b then [ed.ending] else []
  if path = "/dev/stdout" then
    completeEnd
    Chore.put (cs ++ ends hasEnd)
    modify fun ed => { ed with owesEnd := !hasEnd }
  else
    match ed.sinks.find? fun s => s.path == path with
    | none => pure ()
    | some s =>
      let _ ← work (Work.write s.descriptor (Text.toBytes (ends s.owesEnd ++ cs ++ ends hasEnd)))
      modify fun ed => { ed with sinks := ed.sinks.map fun s =>
        if s.path == path then { s with owesEnd := !hasEnd } else s }

/-- Write what waits for the end of the line. -/
def emitWaiting : Editing Unit := do
  let waiting := (← get).waiting.reverse
  modify fun ed => { ed with waiting := [] }
  waiting.forM fun w => do
    match w with
    | .text cs =>
      completeEnd
      out cs
    | .file path =>
      match ← readFrom path with
      | .ok (cs, _) =>
        if !cs.isEmpty then
          completeEnd
          out cs
      | .error _ => pure ()

/-! ## Input -/

/-- Say that a file cannot be read. -/
def inputFault (path : String) (fault : Fault) : Chore Unit := do
  match fault with
  | .isDirectory => fail s!"read error on {path}: {fault.text}" 4
  | _ => spoil s!"can't read {path}: {fault.text}" 2

/-- Take the next line of the files that were begun. -/
def takeLine : Editing (Option (List Char)) := do
  let ed ← get
  let (line, feed) ← ed.feed.next inputFault ed.ending
  let path := (feed.source.map Prod.fst).getD ed.path
  modify fun ed => { ed with feed, path }
  return line

/-- Put what was written in place of the file that was read. -/
def replaceFile : Editing Unit := do
  let ed ← get
  match ed.inPlace with
  | none => pure ()
  | some suffix =>
    let cs := ed.edited.reverse.flatten
    modify fun ed => { ed with edited := [], owesEnd := false }
    let permissions := (← look ed.path).toOption.elim 0o644 Status.permissions
    if !suffix.isEmpty then
      let kept := if suffix.toList.contains '*' then suffix.replace "*" ed.path
        else ed.path ++ suffix
      let _ ← call (.rename (Text.ofOctets ed.path) (Text.ofOctets kept))
    else
      let _ ← call (.remove (Text.ofOctets ed.path))
    match ← writeTo ed.path cs permissions with
    | .ok () => pure ()
    | .error fault => fail s!"couldn't open file {ed.path}: {fault.text}" 4

/-- Begin the next file by itself, if there is one. It tells whether there is. The number bounds
how many there are. -/
def beginFile : Nat → Editing Bool
  | 0 => pure false
  | bound + 1 => do
    let ed ← get
    match ed.paths with
    | [] => pure false
    | path :: paths =>
      modify fun ed => { ed with paths }
      let isFile ← if ed.inPlace.isNone then pure true
        else match ← look path with
          | .error fault => do
            inputFault path fault
            pure false
          | .ok status =>
            if status.kind = .file then pure true
            else do
              spoil s!"couldn't edit {path}: not a regular file" 4
              pure false
      if isFile then
        set { ← get with feed := { paths := [path] }, path, number := 0, ranges := [] }
        pure true
      else beginFile bound

/-- Take the next line of any file. The number bounds how many files are begun. -/
def takeAny : Nat → Editing (Option (List Char))
  | 0 => pure none
  | bound + 1 => do
    match ← takeLine with
    | some line => pure (some line)
    | none =>
      if (← get).isSeparate then
        if (← get).edited.isEmpty && (← get).number = 0 then pure ()
        else replaceFile
        if ← beginFile ((← get).paths.length + 1) then takeAny bound else pure none
      else pure none

/-- Read the next line into the hand. It tells whether there is one. -/
def readLine (joins : Bool := false) : Editing Bool := do
  match ← takeAny ((← get).paths.length + 2) with
  | none => pure false
  | some line =>
    modify fun ed =>
      let (bare, hasEnd) := withoutEnd line ed.ending
      let space := if joins then ed.space ++ ed.ending :: bare else bare
      { ed with number := ed.number + 1, space, hasEnd }
    pure true

/-- Whether the line in hand is the last one, of its file if every file is taken by itself. -/
def isLast : Editing Bool := do
  let ed ← get
  let (finished, feed) ← ed.feed.isOver inputFault ed.ending
  modify fun ed => { ed with feed }
  return finished

/-! ## Addresses -/

/-- The expression to use: a new one, or the one that was used last. -/
def expression (e : Option Regex) (anyCase : Bool) : Editing (Regex × Bool) := do
  match e, (← get).last with
  | some e, _ =>
    modify fun ed => { ed with last := some (e, anyCase) }
    pure (e, anyCase)
  | none, some used => pure used
  | none, none => fail "-e expression #1, char 0: no previous regular expression"

/-- Whether an address is that of the line in hand. -/
def isAt (a : Address) : Editing Bool := do
  let n := (← get).number
  match a with
  | .line k | .after k => pure (n == k)
  | .last => isLast
  | .step first step =>
    pure (if step = 0 then n == first else decide (first ≤ n) && (n - first) % step == 0)
  | .multiple k => pure (k == 0 || n % k == 0)
  | .matching e anyCase =>
    let (e, anyCase) ← expression e anyCase
    pure (e.search? { text := (← get).space.toArray, anyCase }).isSome

/-- Say for which line a pair of addresses ends to hold; `none` if that is not known. -/
def holdUntil (pc : Nat) (finish : Option (Option Nat)) : Editing Unit :=
  modify fun ed =>
    let others := ed.ranges.filter fun r => r.1 ≠ pc
    { ed with ranges := match finish with
      | none => others
      | some line => (pc, line) :: others }

/-- Whether the addresses of an instruction choose the line in hand. -/
def isChosen (pc : Nat) (i : Instruction) : Editing Bool := do
  let n := (← get).number
  match i.first, i.last with
  | none, _ => pure true
  | some first, none => isAt first
  | some first, some final =>
    let under := (← get).ranges.lookup pc
    let isEarly := under.isNone && n == 1 &&
      (match first with | .line 0 => true | _ => false)
    match under with
    | some (some finish) =>
      if finish ≤ n then holdUntil pc none
      pure (decide (n ≤ finish))
    | some none =>
      if ← isAt final then holdUntil pc none
      pure true
    | none =>
      if isEarly then
        if !(← isAt final) then holdUntil pc (some none)
        pure true
      else if ← isAt first then
        let finish : Option Nat := match final with
          | .line k => some k
          | .after k => some (n + k)
          | .multiple k => some (if k = 0 then n else (n + k - 1) / k * k)
          | _ => none
        match finish with
        | some k => if n < k then holdUntil pc (some (some k))
        | none => holdUntil pc (some none)
        pure true
      else pure false

/-! ## Instructions -/

/-- Where to go on after an instruction. -/
inductive Turn where
  /-- With the instruction at a place. -/
  | at (pc : Nat)
  /-- With the next line, after this one was written. -/
  | finished
  /-- With the next line, while this one is dropped. -/
  | dropped
  /-- From the start with the same line. -/
  | again
  /-- Nowhere: end with a number, after the line was written or not. -/
  | quit (status : Nat) (writes : Bool)

/-- A line as it is shown without doubt, in pieces no wider than a width. -/
def unambiguous (width : Nat) (cs : List Char) : List Char :=
  let shown (c : Char) : List Char :=
    match c with
    | '\\' => ['\\', '\\']
    | '\x07' => ['\\', 'a']
    | '\x08' => ['\\', 'b']
    | '\x0c' => ['\\', 'f']
    | '\n' => ['\\', 'n']
    | '\r' => ['\\', 'r']
    | '\t' => ['\\', 't']
    | '\x0b' => ['\\', 'v']
    | _ =>
      if ' ' ≤ c ∧ c ≤ '~' then [c]
      else
        let digits := Nat.toDigits 8 c.toNat
        '\\' :: List.replicate (3 - digits.length) '0' ++ digits
  let (text, _) := cs.foldl (fun (text, column) c =>
    let piece := shown c
    if width ≠ 0 ∧ width - 1 < column + piece.length then
      (piece.reverse ++ '\n' :: '\\' :: text, piece.length)
    else (piece.reverse ++ text, column + piece.length)) (([] : List Char), 0)
  text.reverse ++ ['$']

/-- The place of a label. -/
def placeOf (script : Array Instruction) (label : String) : Option Nat :=
  script.findIdx? fun i =>
    match i.edit with
    | .label name => name == label
    | _ => false

/-- Go to a label, or to the end of the script. -/
def jumpTo (label : String) : Editing Turn := do
  let script := (← get).script
  return .at (if label.isEmpty then script.size else (placeOf script label).getD script.size)

/-- The part of a line before its first end, and what follows it. -/
def firstLine (ending : Char) (cs : List Char) : List Char × Option (List Char) :=
  let front := cs.takeWhile (· ≠ ending)
  match cs.drop front.length with
  | [] => (front, none)
  | _ :: rest => (front, some rest)

/-- Carry out an instruction of one letter. -/
def plain (pc : Nat) (c : Char) : Editing Turn := do
  let ed ← get
  let goOn : Turn := .at (pc + 1)
  match c with
  | 'p' =>
    emitSpace
    pure goOn
  | 'P' =>
    let (front, rest) := firstLine ed.ending ed.space
    emit front (rest.isSome || ed.hasEnd)
    pure goOn
  | 'd' => pure .dropped
  | 'D' =>
    match (firstLine ed.ending ed.space).2 with
    | none => pure .dropped
    | some rest =>
      set { ed with space := rest }
      pure .again
  | 'n' =>
    if ← isLast then pure .finished
    else
      if !ed.isQuiet then emitSpace
      emitWaiting
      if ← readLine then pure goOn else pure .finished
  | 'N' =>
    if ← isLast then pure .finished
    else
      emitWaiting
      if ← readLine true then pure goOn else pure .finished
  | 'g' =>
    set { ed with space := ed.hold }
    pure goOn
  | 'G' =>
    set { ed with space := ed.space ++ ed.ending :: ed.hold }
    pure goOn
  | 'h' =>
    set { ed with hold := ed.space }
    pure goOn
  | 'H' =>
    set { ed with hold := ed.hold ++ ed.ending :: ed.space }
    pure goOn
  | 'x' =>
    set { ed with hold := ed.space, space := ed.hold }
    pure goOn
  | '=' =>
    completeEnd
    out ((toString ed.number).toList ++ ['\n'])
    pure goOn
  | 'z' =>
    set { ed with space := [] }
    pure goOn
  | 'F' =>
    completeEnd
    out (ed.path.toList ++ ['\n'])
    pure goOn
  | _ => pure goOn

/-- Carry out an instruction with the name of a file. -/
def withFile (c : Char) (path : String) : Editing Unit := do
  let ed ← get
  match c with
  | 'r' => modify fun ed => { ed with waiting := .file path :: ed.waiting }
  | 'w' => emitTo path ed.space ed.hasEnd
  | 'W' =>
    let (front, rest) := firstLine ed.ending ed.space
    emitTo path front (rest.isSome || ed.hasEnd)
  | _ =>
    let source := (ed.sources.lookup path).getD { paths := [path] }
    let (line, source) ← source.next (fun _ _ => pure ()) ed.ending
    let sources := (path, source) :: ed.sources.filter fun s => s.1 ≠ path
    match line with
    | none => modify fun ed => { ed with sources }
    | some line =>
      let text := (withoutEnd line ed.ending).1 ++ [ed.ending]
      modify fun ed => { ed with sources, waiting := .text text :: ed.waiting }

/-- Carry out an instruction for the line in hand. -/
def carryOut (pc : Nat) (i : Instruction) : Editing Turn := do
  let goOn : Turn := .at (pc + 1)
  let ed ← get
  match i.edit with
  | .block _ | .nothing | .label _ => pure goOn
  | .replace e anyCase pieces all nth prints file =>
    let (e, anyCase) ← expression e anyCase
    let s : Replacement := { e, pieces, all, nth }
    let (space, isDone) := s.apply { text := ed.space.toArray, anyCase }
    if isDone then
      modify fun ed => { ed with space, hasReplaced := true }
      if prints then emitSpace
      match file with
      | some path => emitTo path space ed.hasEnd
      | none => pure ()
    pure goOn
  | .change pairs =>
    set { ed with space := ed.space.map fun c => (pairs.lookup c).getD c }
    pure goOn
  | .plain c => plain pc c
  | .withText c text =>
    let text := if text.isEmpty then [] else text ++ ['\n']
    match c with
    | 'a' =>
      set { ed with waiting := .text text :: ed.waiting }
      pure goOn
    | 'i' =>
      completeEnd
      out text
      pure goOn
    | _ =>
      if i.last.isNone || i.isNegated || (ed.ranges.lookup pc).isNone then
        completeEnd
        out text
      pure .dropped
  | .withNumber c n =>
    match c with
    | 'q' => pure (.quit (n.getD 0) true)
    | 'Q' => pure (.quit (n.getD 0) false)
    | 'l' =>
      emit (unambiguous (n.getD ed.width) ed.space)
      pure goOn
    | _ => pure goOn
  | .withFile c path =>
    withFile c path
    pure goOn
  | .jump c label =>
    if c = 'b' || ed.hasReplaced == (c == 't') then
      if c = 't' then set { ed with hasReplaced := false }
      jumpTo label
    else
      if c = 'T' then set { ed with hasReplaced := false }
      pure goOn

/-- Go through the script from a place on with the line in hand. The number bounds the
instructions; a script that takes more counts as one that never ends. -/
def runFrom : Nat → Nat → Editing Turn
  | 0, _ => (work Work.spin : Chore Turn)
  | bound + 1, pc => do
    match (← get).script[pc]? with
    | none => pure .finished
    | some i =>
      if (← isChosen pc i) != i.isNegated then
        match ← carryOut pc i with
        | .at next => runFrom bound next
        | turn => pure turn
      else
        match i.edit with
        | .block past => runFrom bound past
        | _ => runFrom bound (pc + 1)

/-- How many instructions are carried out for a line before they are taken to have no end. -/
def mostInstructions : Nat := 10000000

/-- Go back to where the lines that were not taken start, if the standard input is read. -/
def giveBack : Editing Unit := do
  let ed ← get
  match ed.feed.source with
  | some (_, 0) =>
    let ready := (ed.feed.ready.map List.length).getD 0
    call (.goBack 0 (ed.feed.held.length + ready))
  | _ => pure ()

/-- Take all lines, and give the number to end with. The number bounds how many there are. -/
def runLines : Nat → Bool → Editing Nat
  | 0, _ => pure 0
  | bound + 1, isAgain => do
    let isThere ← if isAgain then pure true else readLine
    if !isThere then return (← getThe Bench).status
    modify fun ed => { ed with hasReplaced := ed.hasReplaced && isAgain }
    let turn ← runFrom mostInstructions 0
    let isQuiet := (← get).isQuiet
    let writes := match turn with
      | .finished | .quit _ true => !isQuiet
      | _ => false
    if writes then emitSpace
    match turn with
    | .quit status true =>
      emitWaiting
      giveBack
      replaceRest
      pure status
    | .quit status false =>
      giveBack
      replaceRest
      pure status
    | .again =>
      emitWaiting
      runLines bound true
    | _ =>
      emitWaiting
      runLines bound false
where
  /-- Write the rest of a file that is changed in place. -/
  replaceRest : Editing Unit := do
    if (← get).inPlace.isSome then
      copyRest Work.mostReads
      replaceFile
  /-- Write the lines of a file that are left as they are. -/
  copyRest : Nat → Editing Unit
    | 0 => pure ()
    | bound + 1 => do
      match ← takeLine with
      | none => pure ()
      | some line =>
        completeEnd
        out line
        copyRest bound

end Editing

/-! ## The tool -/

/-- The files that a script writes. -/
def filesWritten (script : Array Instruction) : List String :=
  (script.toList.filterMap fun i =>
    match i.edit with
    | .withFile 'w' path | .withFile 'W' path => some path
    | .replace _ _ _ _ _ _ file => file
    | _ => none).eraseDups

/-- Open a file that lines are written to, unless it is the output. -/
def openSink (path : String) : Chore (Option Sink) := do
  if path = "/dev/stdout" then pure none
  else if path = "/dev/stderr" then pure (some { path, descriptor := 2 })
  else
    match ← openAt path .forWriting with
    | .ok n => pure (some { path, descriptor := n })
    | .error fault => fail s!"couldn't open file {path}: {fault.text}" 4

/-- The label that an instruction jumps to and that is not there. -/
def missingLabel? (script : Array Instruction) : Option String :=
  script.toList.findSome? fun i =>
    match i.edit with
    | .jump _ label =>
      if label.isEmpty || (Editing.placeOf script label).isSome then none else some label
    | _ => none

/-- Where in which of some texts a place in all of them is, when they follow one another as
lines. -/
def placeIn : Nat → Nat → List (List Char) → Nat × Nat
  | n, place, [] => (n, place)
  | n, place, [_] => (n, place)
  | n, place, text :: rest =>
    if place ≤ text.length then (n, place) else placeIn (n + 1) (place - text.length - 1) rest

/-- The tool `sed`. -/
def sed : Utility := toWork do
  let flag (c : Char) (name : String) : Flag := ⟨c, false, name, false⟩
  let usage : Chore Unit := do
    let name ← name
    warn s!"Usage: {name} [OPTION]... \x7bscript-only-if-no-other-script\x7d [input-file]...\n\n"
  let args := (← get).setting.arguments
  let isInPlace (a : String) : Bool := a.startsWith "-i" || a.startsWith "--in-place"
  let suffix := (args.filter isInPlace).getLast?.map fun a =>
    if a.startsWith "-i" then (a.drop 2).toString else (a.drop "--in-place=".length).toString
  let known : List Flag := [flag 'n' "quiet", flag 'n' "silent", flag 'E' "regexp-extended",
    flag 'r' "", flag 's' "separate", flag 'u' "unbuffered", flag 'z' "null-data",
    flag 'p' "posix", flag 'g' "debug", flag 'k' "follow-symlinks", flag 'b' "binary",
    ⟨'e', true, "expression", false⟩, ⟨'f', true, "file", false⟩,
    ⟨'l', true, "line-length", false⟩]
  let p ← match parseFrom known false (args.length + 1) (args.filter (!isInPlace ·)) with
    | .ok p => pure p
    | .error text =>
      complain text
      usage
      throw 1
  let parts ← (p.chosen.filter fun o => o.1 == 'e' || o.1 == 'f').mapM fun (c, text) => do
    if c = 'e' then pure (true, text.toList)
    else
      match ← readFrom text with
      | .ok (cs, _) => pure (false, (withoutEnd cs).1)
      | .error fault => fail s!"couldn't open file {text}: {fault.text}" 4
  if parts.isEmpty && p.operands.isEmpty then
    usage
    throw 1
  let isGiven := !parts.isEmpty
  let parts := if isGiven then parts else (p.operands.take 1).map fun text => (true, text.toList)
  let texts := parts.map Prod.snd
  let whole := ['\n'].intercalate texts
  let script ← match Script.read (p.has 'E' || p.has 'r') whole with
    | .ok script => pure script
    | .error r =>
      let (n, place) := placeIn 1 (whole.length - r.left.getD whole.length) texts
      fail s!"-e expression #{n}, char {place}: {r.text}"
  match missingLabel? script with
  | some label => fail s!"can't find label for jump to \x60{label}'" 4
  | none => pure ()
  let sinks ← (filesWritten script).filterMapM openSink
  let paths := if isGiven then p.operands else p.operands.drop 1
  let paths := if paths.isEmpty then ["-"] else paths
  let isSeparate := p.has 's' || suffix.isSome
  let hush := whole.take 3 == ['#', 'n', '\n'] || whole == ['#', 'n']
  let ed : Editor := {
    script, sinks, isSeparate
    isQuiet := p.has 'n' || hush
    inPlace := suffix
    ending := if p.has 'z' then '\x00' else '\n'
    width := ((p.last? 'l').bind fun text => natural? text.toList).getD 70
    paths := if isSeparate then paths else []
    feed := { paths := if isSeparate then [] else paths } }
  let (status, _) ← (Editing.runLines Work.mostReads false).run ed
  leave (max status (← get).status)

end Confine.Tool
