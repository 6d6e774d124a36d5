import Confine.Tool.Feed

set_option autoImplicit false

/-! # Tools for streams

The tools that pass on what they read as it comes, or a part of it: `cat`, `tee`, `head`, `tail`,
`yes`, `wc` and `tac`. -/

namespace Confine.Tool

open Confine.System (Work)
open Chore

/-! ## Passing on -/

/-- Pass on what can be read through a descriptor. The number bounds how often it is read. It gives
the fault of reading, if there is one. -/
def passOn (descriptor : Nat) : Nat → Chore (Option Fault)
  | 0 => pure none
  | steps + 1 => do
    match ← call (.read descriptor Work.readSize) with
    | .error fault => pure (some fault)
    | .ok [] => pure none
    | .ok bytes =>
      match ← work (Work.write 1 bytes) with
      | .ok () => passOn descriptor steps
      | .error fault => fail s!"write error: {fault.text}"

/-- How `cat` shows a character. -/
def visibleOctet (tabs : Bool) (c : Char) : List Char :=
  let plain (n : Nat) : List Char :=
    if n < 32 then ['^', Char.ofNat (n + 64)]
    else if n = 127 then ['^', '?']
    else [Char.ofNat n]
  if c = '\n' then [c]
  else if c = '\t' ∧ !tabs then [c]
  else if c.toNat < 128 then plain c.toNat
  else 'M' :: '-' :: plain (c.toNat - 128)

/-- Show a line as `cat` does, after so many that were numbered and one that may have been blank or
without an end. It gives the same for the line after it. -/
def showLine (p : Parsed) : Nat × Bool × Bool → List Char → Chore (Nat × Bool × Bool)
  | (n, wasBlank, isInside), line => do
    let blank := line == ['\n'] && !isInside
    if blank && wasBlank && p.has 's' then pure (n, true, false)
    else
      let counts := (if p.has 'b' then !blank else p.has 'n') && !isInside
      let number := if counts then (padLeft 6 (toString (n + 1)) ++ "\t").toList else []
      let special := p.has 'v' || p.has 'e' || p.has 't' || p.has 'A'
      let tabs := p.has 'T' || p.has 't' || p.has 'A'
      let ends := p.has 'E' || p.has 'e' || p.has 'A'
      let text := line.flatMap fun c =>
        if c = '\n' then (if ends then ['$', '\n'] else ['\n'])
        else if special then visibleOctet tabs c
        else if tabs && c == '\t' then ['^', 'I']
        else [c]
      put (number ++ text)
      pure (if counts then n + 1 else n, blank, !(withoutEnd line).2)

/-- The tool `cat`. -/
def cat : Utility := toWork do
  let p ← parse [⟨'A', false, "show-all", false⟩, ⟨'b', false, "number-nonblank", false⟩,
    ⟨'e', false, "", false⟩, ⟨'E', false, "show-ends", false⟩, ⟨'n', false, "number", false⟩,
    ⟨'s', false, "squeeze-blank", false⟩, ⟨'t', false, "", false⟩,
    ⟨'T', false, "show-tabs", false⟩, ⟨'u', false, "", false⟩,
    ⟨'v', false, "show-nonprinting", false⟩]
  let files := if p.operands.isEmpty then ["-"] else p.operands
  if p.chosen.all fun o => o.1 == 'u' then
    files.forM fun path => do
      let descriptor ← if path = "-" then pure (.ok 0) else openAt path .forReading
      match descriptor with
      | .error fault => spoil s!"{path}: {fault.text}"
      | .ok n =>
        match ← passOn n Work.mostReads with
        | some fault => spoil s!"{path}: {fault.text}"
        | none => pure ()
        if n ≠ 0 then close n
  else
    let _ ← foldLines files (0, false, false) (showLine p)

/-- Copy what can be read from the standard input to several descriptors. The number bounds how
often it is read. -/
def copyTo (sinks : List (String × Nat)) : Nat → Chore Unit
  | 0 => pure ()
  | steps + 1 => do
    match ← call (.read 0 Work.readSize) with
    | .error fault => spoil s!"read error: {fault.text}"
    | .ok [] => pure ()
    | .ok bytes =>
      let left ← sinks.filterM fun (path, n) => do
        match ← work (Work.write n bytes) with
        | .ok () => pure true
        | .error fault =>
          spoil s!"{path}: {fault.text}"
          pure false
      if left.isEmpty then pure () else copyTo left steps

/-- The tool `tee`. -/
def tee : Utility := toWork do
  let p ← parse [⟨'a', false, "append", false⟩, ⟨'i', false, "ignore-interrupts", false⟩,
    ⟨'p', false, "output-error", true⟩]
  if p.has 'i' then
    let _ ← call (.handle 2 .ignored)
  let files ← p.operands.filterMapM fun path => do
    match ← openAt path (if p.has 'a' then .forAppending else .forWriting) with
    | .ok n => pure (some (path, n))
    | .error fault =>
      spoil s!"{path}: {fault.text}"
      pure none
  copyTo (("standard output", 1) :: files) Work.mostReads

/-! ## Parts -/

/-- What was read of something. -/
structure Haul where
  /-- The pieces, the latest first. -/
  pieces : List (List Char) := []
  /-- How many octets there are. -/
  length : Nat := 0
  /-- How many lines end in them. -/
  lines : Nat := 0

/-- What was read with one more piece. -/
def Haul.add (h : Haul) (cs : List Char) : Haul :=
  ⟨cs :: h.pieces, h.length + cs.length, h.lines + cs.count '\n'⟩

/-- Read octets through a descriptor until there are enough of them, or up to the end. The number
bounds how often it is read. -/
def readUntil (descriptor : Nat) (enough : Haul → Bool) :
    Nat → Haul → Chore (List Char × Option Fault)
  | 0, h => pure (h.pieces.reverse.flatten, none)
  | steps + 1, h => do
    if enough h then pure (h.pieces.reverse.flatten, none)
    else
      match ← call (.read descriptor 1024) with
      | .error fault => pure (h.pieces.reverse.flatten, some fault)
      | .ok [] => pure (h.pieces.reverse.flatten, none)
      | .ok bytes => readUntil descriptor enough steps (h.add (Text.ofBytes bytes))

/-- The line that names a file before its part, after an empty one unless it is the first. -/
def header (isFirst : Bool) (path : String) : Chore Unit := do
  let name := if path = "-" then "standard input" else path
  if !isFirst then say ""
  say s!"==> {name} <=="

/-- A count of lines or bytes, with a sign in front that says from where it counts. -/
structure Amount where
  /-- Whether it counts bytes. -/
  bytes : Bool := false
  /-- The sign, if there is one. -/
  sign : Option Char := none
  /-- The number. -/
  count : Nat := 10

/-- Read an amount. -/
def Amount.of? (bytes : Bool) (text : String) : Option Amount :=
  match text.toList with
  | '-' :: rest => (scaled? (String.ofList rest)).map fun n => ⟨bytes, some '-', n⟩
  | '+' :: rest => (scaled? (String.ofList rest)).map fun n => ⟨bytes, some '+', n⟩
  | _ => (scaled? text).map fun n => ⟨bytes, none, n⟩

/-- The amount that options ask for. -/
def amountOf (p : Parsed) : Chore Amount := do
  match p.lastOf? ['n', 'c'] with
  | none => pure {}
  | some c =>
    let text := (p.last? c).getD ""
    match Amount.of? (c == 'c') text with
    | some a => pure a
    | none =>
      let units := if c = 'c' then "bytes" else "lines"
      fail s!"invalid number of {units}: '{text}'"

/-- Write numbers that stand for an option by themselves in the usual way: `-5` for `-n 5`, and
`+5` for `-n +5` if that is known. -/
def oldStyle (withPlus : Bool) (args : List String) : List String :=
  match args with
  | a :: rest =>
    match a.toList with
    | '+' :: c :: cs =>
      if withPlus && rest.length < 2 && (c :: cs).all Char.isDigit then "-n" :: a :: rest else args
    | '-' :: c :: cs =>
      if c.isDigit then
        let digits := (c :: cs).takeWhile Char.isDigit
        let letter := if (cs.drop (digits.length - 1)).contains 'c' then "-c" else "-n"
        letter :: String.ofList digits :: rest
      else args
    | _ => args
  | [] => []

/-- The options of the tools that give parts of files. -/
def partFlags : List Flag :=
  [⟨'n', true, "lines", false⟩, ⟨'c', true, "bytes", false⟩, ⟨'q', false, "quiet", false⟩,
    ⟨'q', false, "silent", false⟩, ⟨'v', false, "verbose", false⟩, ⟨'f', false, "follow", true⟩,
    ⟨'F', false, "", false⟩, ⟨'s', true, "sleep-interval", false⟩]

/-- How many characters the first lines of a text have. -/
def lengthOfLines (n : Nat) (cs : List Char) : Nat :=
  ((linesOf cs).take n).foldl (fun sum line => sum + line.length) 0

/-- Have so many bytes or lines written of what can be read through a descriptor. What was read
beyond them is given back, if that is possible. The first number bounds how often it is read. It
gives the fault of reading, if there is one. -/
def passFirst (descriptor : Nat) (bytes : Bool) : Nat → Nat → Chore (Option Fault)
  | 0, _ | _, 0 => pure none
  | steps + 1, left => do
    match ← call (.read descriptor (if bytes then min left Work.readSize else 1024)) with
    | .error fault => pure (some fault)
    | .ok [] => pure none
    | .ok read =>
      let cs := Text.ofBytes read
      let there := if bytes then cs.length else cs.count '\n'
      if there < left then
        put cs
        Feed.settle
        passFirst descriptor bytes steps (left - there)
      else
        let kept := if bytes then left else lengthOfLines left cs
        put (cs.take kept)
        call (.goBack descriptor (cs.length - kept))
        pure none

/-- The first part of what can be read through a descriptor, as far as it is not written yet. -/
def firstPart (descriptor : Nat) (a : Amount) : Chore (List Char × Option Fault) := do
  if a.sign = some '-' then
    let (cs, fault) ← readAll descriptor
    let kept :=
      if a.bytes then cs.length - a.count
      else lengthOfLines ((linesOf cs).length - a.count) cs
    pure (cs.take kept, fault)
  else
    pure ([], ← passFirst descriptor a.bytes Work.mostReads a.count)

/-- The last part of what can be read through a descriptor. Where it starts at a given place, it is
passed on at once. -/
def lastPart (descriptor : Nat) (a : Amount) : Chore (List Char × Option Fault) := do
  if a.sign = some '+' then
    let skipped := a.count - 1
    let enough (h : Haul) : Bool := decide (skipped ≤ if a.bytes then h.length else h.lines)
    let (cs, fault) ← readUntil descriptor enough Work.mostReads {}
    put (cs.drop (if a.bytes then skipped else lengthOfLines skipped cs))
    if fault.isSome then pure ([], fault)
    else
      flushOrFail
      pure ([], ← passOn descriptor Work.mostReads)
  else
    let (cs, fault) ← readAll descriptor
    let skipped :=
      if a.bytes then cs.length - a.count
      else lengthOfLines ((linesOf cs).length - a.count) cs
    pure (cs.drop skipped, fault)

/-- Show parts of files, each after its name if there are several. -/
def showParts (withPlus : Bool)
    (part : Nat → Amount → Chore (List Char × Option Fault)) : Chore Unit := do
  modify fun b => { b with
    setting := { b.setting with arguments := oldStyle withPlus b.setting.arguments } }
  let p ← parse partFlags
  let a ← amountOf p
  let files := if p.operands.isEmpty then ["-"] else p.operands
  let named := p.lastOf? ['q', 'v'] == some 'v' ||
    (decide (1 < files.length) && p.lastOf? ['q', 'v'] != some 'q')
  let _ ← files.foldlM (fun (isFirst : Bool) path => do
    let descriptor ← if path = "-" then pure (.ok 0) else openAt path .forReading
    match descriptor with
    | .error fault =>
      spoil s!"cannot open '{path}' for reading: {fault.text}"
      pure isFirst
    | .ok n =>
      if named then header isFirst path
      let (octets, fault) ← part n a
      match fault with
      | some fault => spoil s!"error reading '{path}': {fault.text}"
      | none => pure ()
      put octets
      if n ≠ 0 then close n
      pure false) true
  if p.has 'f' || p.has 'F' then
    flushOrFail
    call (.sleep 1000000000000)

/-- The tool `head`. -/
def head : Utility := toWork (showParts false firstPart)

/-- The tool `tail`. -/
def tail : Utility := toWork (showParts true lastPart)

/-- Write the same for ever. -/
def repeatFor (bytes : List UInt8) : Nat → Chore Unit
  | 0 => work Work.spin
  | rounds + 1 => do
    match ← work (Work.write 1 bytes) with
    | .ok () => repeatFor bytes rounds
    | .error fault => fail s!"standard output: {fault.text}"

/-- The tool `yes`. -/
def yes : Utility := toWork do
  let p ← parse []
  let line := (if p.operands.isEmpty then "y" else " ".intercalate p.operands) ++ "\n"
  let lines := max 1 (4096 / line.length)
  repeatFor (Text.toBytes (List.replicate lines line.toList).flatten) Work.mostReads

/-! ## Counting -/

/-- What is counted of a text. -/
structure Counts where
  /-- Its lines. -/
  lines : Nat := 0
  /-- Its words. -/
  words : Nat := 0
  /-- Its characters. -/
  bytes : Nat := 0
  /-- The length of its longest line. -/
  longest : Nat := 0

/-- Count a text. -/
def Counts.of (cs : List Char) : Counts :=
  let isSpace (c : Char) : Bool := c == ' ' || ('\t' ≤ c && c ≤ '\r')
  let words := (cs.foldl (fun (n, inWord) c =>
    if isSpace c then (n, false) else (if inWord then n else n + 1, true)) (0, false)).1
  let width (line : List Char) : Nat :=
    line.foldl (fun n c => if c = '\t' then (n / 8 + 1) * 8 else if c < ' ' then n else n + 1) 0
  { lines := cs.count '\n'
    words
    bytes := cs.length
    longest := ((bareLines cs).map width).foldl max 0 }

/-- The counts of two texts together. -/
def Counts.add (a b : Counts) : Counts :=
  ⟨a.lines + b.lines, a.words + b.words, a.bytes + b.bytes, max a.longest b.longest⟩

/-- The tool `wc`. -/
def wc : Utility := toWork do
  let p ← parse [⟨'l', false, "lines", false⟩, ⟨'w', false, "words", false⟩,
    ⟨'c', false, "bytes", false⟩, ⟨'m', false, "chars", false⟩,
    ⟨'L', false, "max-line-length", false⟩]
  let files := if p.operands.isEmpty then ["-"] else p.operands
  let wants (c : Char) : Bool := p.has c
  let usual := p.chosen.isEmpty
  let columns (k : Counts) : List Nat :=
    (if usual || wants 'l' then [k.lines] else []) ++
    (if usual || wants 'w' then [k.words] else []) ++
    (if wants 'm' then [k.bytes] else []) ++
    (if usual || wants 'c' then [k.bytes] else []) ++
    (if wants 'L' then [k.longest] else [])
  let statuses ← files.mapM fun path =>
    if path = "-" then pure none else do return (← look path).toOption
  let isOrdinary (s : Option System.Status) : Bool := s.all fun s => s.kind == .file
  let onlyOne := files.length = 1 ∧ (columns {}).length = 1
  let total := (statuses.filterMap id).foldl
    (fun n (s : System.Status) => if s.kind = .file then n + s.size else n) 0
  let least :=
    if (files.zip statuses).all fun (path, s) => path ≠ "-" && isOrdinary s then 1 else 7
  let width := if onlyOne then 1 else max least (toString total).length
  let line (k : Counts) (path : String) : String :=
    " ".intercalate ((columns k).map fun n => padLeft width (toString n)) ++
      (if path.isEmpty then "" else " " ++ path)
  let counts ← files.filterMapM fun path => do
    match ← readFrom path with
    | .error fault =>
      spoil s!"{path}: {fault.text}"
      pure none
    | .ok (octets, fault) =>
      match fault with
      | some fault => spoil s!"{path}: {fault.text}"
      | none => pure ()
      let k := Counts.of octets
      say (line k (if p.operands.isEmpty then "" else path))
      pure (some k)
  if 1 < files.length then say (line (counts.foldl Counts.add {}) "total")

/-- The tool `tac`. -/
def tac : Utility := toWork do
  let p ← parse []
  let files := if p.operands.isEmpty then ["-"] else p.operands
  files.forM fun path => do
    match ← readOrSpoil path with
    | none => pure ()
    | some octets => put (linesOf octets).reverse.flatten

end Confine.Tool
