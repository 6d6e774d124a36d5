import Confine.Text.Real
import Confine.Tool.Feed

set_option autoImplicit false

/-! # Tools for the order of lines

`sort` orders lines by keys, and `uniq` and `comm` work on lines in order: they tell which are
repeated, and which are in one file and not in another. -/

namespace Confine.Tool

open Chore

/-! ## Comparing -/

/-- How keys are compared. -/
structure Manner where
  /-- The letters of the ways that were chosen. -/
  letters : List Char := []
  deriving Inhabited

namespace Manner

/-- Whether a way was chosen. -/
def has (m : Manner) (c : Char) : Bool :=
  m.letters.contains c

end Manner

/-- Whether a character separates fields. -/
def isBlankChar (c : Char) : Bool :=
  c == ' ' || c == '\t' || c == '\n'

/-- A number with a sign at the start of a text: its digits before and after the point. -/
def numberAt (cs : List Char) : Bool × List Char × List Char :=
  let cs := cs.dropWhile isBlankChar
  let negative := cs.head? == some '-'
  let cs := if negative then cs.drop 1 else cs
  let whole := cs.takeWhile Char.isDigit
  let rest := cs.drop whole.length
  let fraction := if rest.head? = some '.' then (rest.drop 1).takeWhile Char.isDigit else []
  (negative, whole, fraction)

/-- Compare the numbers at the start of two texts. -/
def compareNumbers (a b : List Char) : Ordering :=
  let (s, m, f) := numberAt a
  let (t, n, g) := numberAt b
  let places := max f.length g.length
  let value (negative : Bool) (whole fraction : List Char) : Int :=
    let digits := whole ++ fraction ++ List.replicate (places - fraction.length) '0'
    let n : Nat := digits.foldl (fun n c => n * 10 + (c.toNat - '0'.toNat)) 0
    if negative then -n else n
  compare (value s m f) (value t n g)

/-- Compare the numbers at the start of two texts, which may have exponents. What is no number comes
first. -/
def compareReals (a b : List Char) : Ordering :=
  let read (cs : List Char) : Option Text.Real :=
    (Text.Real.at? (cs.dropWhile isBlankChar)).map Prod.fst
  let rank : Option Text.Real → Nat
    | none => 0
    | some (.none _) => 1
    | some (.infinite true) => 2
    | some (.finite _ _ _) => 3
    | some (.infinite false) => 4
  match read a, read b with
  | some (.finite s m d), some (.finite t n e) =>
    let least := min d e
    let value (negative : Bool) (m : Nat) (e : Int) : Int :=
      let n : Nat := m * Nat.pow 2 (e - least).toNat
      if negative then -n else n
    compare (value s m d) (value t n e)
  | x, y => compare (rank x) (rank y)

/-- The rank of the letter after a number that multiplies it. -/
def unitRank (cs : List Char) : Nat :=
  let (negative, whole, fraction) := numberAt cs
  let length := whole.length + (if fraction.isEmpty then 0 else fraction.length + 1) +
    (if negative then 1 else 0)
  match ((cs.dropWhile isBlankChar).drop length).head? with
  | none => 0
  | some c => ("KMGTPEZY".toList.findIdx? (· == c.toUpper)).elim 0 (· + 1)

/-- Compare numbers with letters after them that multiply them. -/
def compareScaled (a b : List Char) : Ordering :=
  let rank (cs : List Char) : Int :=
    let (negative, whole, fraction) := numberAt cs
    if (whole ++ fraction).all (· == '0') then 0
    else if negative then -(unitRank cs + 1 : Nat) else (unitRank cs + 1 : Nat)
  (compare (rank a) (rank b)).then (compareNumbers a b)

/-- The number of the month at the start of a text, zero if there is none. -/
def monthAt (cs : List Char) : Nat :=
  let name := String.ofList (((cs.dropWhile isBlankChar).take 3).map Char.toUpper)
  let months := ["JAN", "FEB", "MAR", "APR", "MAY", "JUN", "JUL", "AUG", "SEP", "OCT", "NOV", "DEC"]
  (months.findIdx? (· == name)).elim 0 (· + 1)

/-- Compare texts by the numbers and the texts between these. The first number bounds how many
there are. -/
def compareVersions : Nat → List Char → List Char → Ordering
  | 0, _, _ => .eq
  | bound + 1, a, b =>
    if a.isEmpty && b.isEmpty then .eq
    else
      let plain (c : Char) : Bool := !c.isDigit
      let rank (c : Char) : Nat :=
        if c = '~' then 0 else if c.isAlpha then c.toNat + 1 else c.toNat + 256
      let words (cs : List Char) : List Nat := (cs.takeWhile plain).map rank
      let number (cs : List Char) : Nat :=
        ((cs.dropWhile plain).takeWhile Char.isDigit).foldl
          (fun n c => n * 10 + (c.toNat - '0'.toNat)) 0
      let rest (cs : List Char) : List Char := (cs.dropWhile plain).dropWhile Char.isDigit
      let padded (xs ys : List Nat) : List Nat := xs ++ List.replicate (ys.length - xs.length) 1
      let (x, y) := (words a, words b)
      ((compareLex (padded x y) (padded y x)).then (compare (number a) (number b))).then
        (compareVersions bound (rest a) (rest b))
where
  /-- Compare lists of numbers. -/
  compareLex : List Nat → List Nat → Ordering
    | [], [] => .eq
    | [], _ => .lt
    | _, [] => .gt
    | x :: xs, y :: ys => (compare x y).then (compareLex xs ys)

/-- Compare two keys. -/
def Manner.compare (m : Manner) (a b : List Char) : Ordering :=
  let prepared (cs : List Char) : List Char :=
    let cs := if m.has 'd' then cs.filter fun c => c.isAlphanum || isBlankChar c else cs
    let cs := if m.has 'i' then cs.filter fun c => ' ' ≤ c && c ≤ '~' else cs
    if m.has 'f' then cs.map Char.toUpper else cs
  let order :=
    if m.has 'n' then compareNumbers a b
    else if m.has 'g' then compareReals a b
    else if m.has 'h' then compareScaled a b
    else if m.has 'M' then Ord.compare (monthAt a) (monthAt b)
    else if m.has 'V' then compareVersions (a.length + b.length + 1) a b
    else Ord.compare (String.ofList (prepared a)) (String.ofList (prepared b))
  if m.has 'r' then order.swap else order

/-! ## Keys -/

/-- One end of a key: a field and a character in it, and whether blanks before it are left out. -/
structure KeyEnd where
  /-- The number of the field, from one on. -/
  field : Nat
  /-- The number of the character, from one on; zero for the end of the field. -/
  character : Nat
  /-- Whether blanks are left out. -/
  skipsBlanks : Bool

/-- A part of lines by which they are compared. -/
structure Key where
  /-- Where it starts. -/
  start : KeyEnd
  /-- Where it ends, if not with the line. -/
  finish : Option KeyEnd
  /-- How it is compared, if not like everything else. -/
  manner : Option Manner

/-- How many characters are in front of a field of a line. -/
def fieldStart (separator : Option Char) : Nat → List Char → Nat
  | 0, _ => 0
  | fields + 1, cs =>
    match separator with
    | some c =>
      let field := cs.takeWhile (· ≠ c)
      if (cs.drop field.length).isEmpty then cs.length
      else field.length + 1 + fieldStart separator fields (cs.drop (field.length + 1))
    | none =>
      let blanks := cs.takeWhile isBlankChar
      let word := (cs.drop blanks.length).takeWhile (!isBlankChar ·)
      let length := blanks.length + word.length
      if length = 0 then 0 else length + fieldStart separator fields (cs.drop length)

/-- How many characters are in front of the end of a key. -/
def KeyEnd.finishOf (k : KeyEnd) (separator : Option Char) (line : List Char) : Nat :=
  if k.character = 0 then
    match separator with
    | some c =>
      let start := fieldStart separator (k.field - 1) line
      start + ((line.drop start).takeWhile (· ≠ c)).length
    | none => fieldStart separator k.field line
  else
    let start := fieldStart separator (k.field - 1) line
    let rest := line.drop start
    let blanks := if k.skipsBlanks then (rest.takeWhile isBlankChar).length else 0
    min line.length (start + blanks + k.character)

/-- How many characters are in front of the start of a key. -/
def KeyEnd.startOf (k : KeyEnd) (separator : Option Char) (line : List Char) : Nat :=
  let start := fieldStart separator (k.field - 1) line
  let rest := line.drop start
  let blanks := if k.skipsBlanks then (rest.takeWhile isBlankChar).length else 0
  min line.length (start + blanks + (k.character - 1))

/-- The part of a line that a key is about. -/
def Key.of (k : Key) (separator : Option Char) (line : List Char) : List Char :=
  let start := k.start.startOf separator line
  let finish := k.finish.elim line.length fun e => e.finishOf separator line
  (line.take finish).drop start

/-- The ways to compare that have letters. -/
def orderLetters : List Char := "bdfgiMhnRrV".toList

/-- Read a number in a key, or tell in which words it is missing. -/
def countAt (what : String) (cs : List Char) : Except String (Nat × List Char) :=
  let digits := cs.takeWhile Char.isDigit
  match natural? digits with
  | some n => .ok (n, cs.drop digits.length)
  | none => .error s!"invalid number {what}: invalid count at start of '{String.ofList cs}'"

/-- Read a key. -/
def Key.of? (text : String) : Except String Key := do
  let cs := text.toList
  let wrong {α : Type} (reason : String) : Except String α :=
    .error s!"{reason}: invalid field specification '{text}'"
  let readEnd (what : String) (cs : List Char) (least : Nat) :
      Except String (Nat × Nat × List Char × List Char) := do
    let (field, rest) ← countAt what cs
    if field = 0 then wrong "field number is zero"
    else
      let (character, rest) ← match rest with
        | '.' :: rest => countAt "after '.'" rest
        | rest => .ok (least, rest)
      let letters := rest.takeWhile orderLetters.contains
      .ok (field, character, letters, rest.drop letters.length)
  let (field, character, letters, rest) ← readEnd "at field start" cs 1
  if character = 0 then wrong "character offset is zero"
  else
    let (finish, more, rest) ← match rest with
      | ',' :: rest => do
        let (field, character, letters, rest) ← readEnd "after ','" rest 0
        .ok (some (field, character), letters, rest)
      | rest => .ok (none, [], rest)
    if !rest.isEmpty then wrong "stray character in field spec"
    else
      let all := letters ++ more
      .ok {
        start := ⟨field, character, letters.contains 'b'⟩
        finish := finish.map fun (f, c) => ⟨f, c, more.contains 'b'⟩
        manner := if all.isEmpty then none else some ⟨all⟩ }

/-! ## Sorting -/

/-- The tool `sort`. -/
def sort : Utility := toWork do
  let flag (c : Char) (name : String) : Flag := ⟨c, false, name, false⟩
  let p ← parse ([flag 'b' "ignore-leading-blanks", flag 'd' "dictionary-order",
    flag 'f' "ignore-case", flag 'g' "general-numeric-sort", flag 'i' "ignore-nonprinting",
    flag 'M' "month-sort", flag 'h' "human-numeric-sort", flag 'n' "numeric-sort",
    flag 'R' "random-sort", flag 'r' "reverse", flag 'V' "version-sort", flag 'c' "check",
    flag 'C' "", flag 'm' "merge", flag 's' "stable", flag 'u' "unique",
    flag 'z' "zero-terminated"] ++
    [⟨'k', true, "key", false⟩, ⟨'o', true, "output", false⟩,
      ⟨'t', true, "field-separator", false⟩, ⟨'S', true, "buffer-size", false⟩,
      ⟨'T', true, "temporary-directory", false⟩]) false 2
  let common : Manner := ⟨(p.chosen.map Prod.fst).filter orderLetters.contains⟩
  let separator ← match p.last? 't' with
    | none => pure none
    | some text =>
      match text.toList with
      | [c] => pure (some c)
      | ['\\', '0'] => pure (some '\x00')
      | [] => fail "empty tab" 2
      | _ => fail s!"multi-character tab '{text}'" 2
  let keys ← (p.all 'k').mapM fun text => do
    match Key.of? text with
    | .ok k => pure k
    | .error reason => fail reason 2
  let keys := keys.map fun k =>
    if k.manner.isSome then k
    else
      let skips := common.has 'b'
      { k with
        start := { k.start with skipsBlanks := skips }
        finish := k.finish.map fun e => { e with skipsBlanks := skips } }
  let whole (line : List Char) : List Char :=
    if common.has 'b' then line.dropWhile isBlankChar else line
  let byKeys (a b : List Char) : Ordering :=
    if keys.isEmpty then common.compare (whole a) (whole b)
    else keys.foldl (fun order k =>
      order.then ((k.manner.getD common).compare (k.of separator a) (k.of separator b))) .eq
  let plain := keys.isEmpty && (common.letters.filter (· ≠ 'r')).isEmpty
  let inFull (a b : List Char) : Ordering :=
    if p.has 's' || p.has 'u' || plain then byKeys a b
    else
      let last := Ord.compare (String.ofList a) (String.ofList b)
      (byKeys a b).then (if common.has 'r' then last.swap else last)
  let files := if p.operands.isEmpty then ["-"] else p.operands
  let texts ← files.mapM fun path => do
    match ← readFrom path with
    | .ok (octets, none) =>
      pure (if octets.isEmpty || octets.getLast? == some '\n' then octets else octets ++ ['\n'])
    | .ok (_, some fault) => fail s!"read failed: {path}: {fault.text}" 2
    | .error fault => fail s!"cannot read: {path}: {fault.text}" 2
  let ending := if p.has 'z' then '\x00' else '\n'
  let lines := if p.has 'z' then
      let pieces := texts.flatten.splitOn ending
      if pieces.getLast? = some [] then pieces.dropLast else pieces
    else bareLines texts.flatten
  if p.has 'c' || p.has 'C' then
    let disorder (a b : List Char) : Bool :=
      let order := inFull a b
      order == .gt || (p.has 'u' && order == .eq)
    match ((lines.zip (lines.drop 1)).zip (List.range lines.length)).find? fun x =>
        disorder x.1.1 x.1.2 with
    | none => pure ()
    | some ((_, line), n) =>
      if p.has 'c' then
        let path := files.headD "-"
        complain s!"{path}:{n + 2}: disorder: {String.ofList line}"
      leave 1
  else
    let sorted := lines.mergeSort fun a b => inFull a b != .gt
    let kept := if p.has 'u' then
        (sorted.foldl (fun (kept : List (List Char)) line =>
          match kept with
          | last :: _ => if byKeys last line == .eq then kept else line :: kept
          | [] => [line]) []).reverse
      else sorted
    let text := kept.flatMap (· ++ [ending])
    match p.last? 'o' with
    | none => put text
    | some path =>
      match ← writeTo path text with
      | .ok () => pure ()
      | .error fault => fail s!"open failed: {path}: {fault.text}" 2

/-! ## Repeated lines -/

/-- Lines that follow one another and count as equal. -/
structure Lot where
  /-- The first one. -/
  first : List Char
  /-- All of them, the latest first. -/
  all : List (List Char)

/-- A line without its first fields. -/
def withoutFields : Nat → List Char → List Char
  | 0, cs => cs
  | n + 1, cs => withoutFields n ((cs.dropWhile isBlankChar).dropWhile (!isBlankChar ·))

/-- The tool `uniq`. -/
def uniq : Utility := toWork do
  let flag (c : Char) (name : String) : Flag := ⟨c, false, name, false⟩
  let p ← parse [flag 'c' "count", flag 'd' "repeated", flag 'D' "", flag 'i' "ignore-case",
    flag 'u' "unique", flag 'z' "zero-terminated", ⟨'f', true, "skip-fields", false⟩,
    ⟨'s', true, "skip-chars", false⟩, ⟨'w', true, "check-chars", false⟩]
  let numberOf (c : Char) (what : String) : Chore (Option Nat) := do
    match p.last? c with
    | none => pure none
    | some text =>
      match natural? text.toList with
      | some n => pure (some n)
      | none => fail s!"{text}: invalid number of {what}"
  let fields := (← numberOf 'f' "fields to skip").getD 0
  let skipped := (← numberOf 's' "bytes to skip").getD 0
  let checked ← numberOf 'w' "bytes to compare"
  if p.operands.length > 2 then
    let extra := (p.operands[2]?).getD ""
    misuse s!"extra operand '{extra}'"
  match p.operands[1]? with
  | none | some "-" => pure ()
  | some target =>
    match ← openAt target .forWriting with
    | .ok n =>
      let _ ← call (.replace n 1)
      close n
    | .error fault => fail s!"{target}: {fault.text}"
  let measure (line : List Char) : List Char :=
    let rest := (withoutFields fields line).drop skipped
    let rest := checked.elim rest rest.take
    if p.has 'i' then rest.map Char.toUpper else rest
  let showLot (lot : Lot) : Chore Unit := do
    let count := lot.all.length
    if p.has 'D' then
      if 1 < count then lot.all.reverse.forM fun line => put (line ++ ['\n'])
    else if (p.has 'd' && count = 1) || (p.has 'u' && 1 < count) then pure ()
    else
      let start := if p.has 'c' then (padLeft 7 (toString count) ++ " ").toList else []
      put (start ++ lot.first ++ ['\n'])
  let take (lot : Option Lot) (line : List Char) : Chore (Option Lot) := do
    let line := (withoutEnd line).1
    match lot with
    | none => pure (some ⟨line, [line]⟩)
    | some lot =>
      if measure lot.first == measure line then pure (some { lot with all := line :: lot.all })
      else
        showLot lot
        pure (some ⟨line, [line]⟩)
  let complain (path : String) (fault : Fault) : Chore Unit :=
    match fault with
    | .isDirectory => fail s!"error reading '{path}': {fault.text}"
    | _ => fail s!"{path}: {fault.text}"
  match ← foldLines (p.operands.take 1) none take complain with
  | some lot => showLot lot
  | none => pure ()

/-! ## Lines of two files -/

/-- The lines of two files in order with the column that each belongs to. The number bounds how
many there are. -/
def merged : Nat → List (List Char) → List (List Char) → List (Nat × List Char)
  | 0, _, _ => []
  | _, [], bs => bs.map (2, ·)
  | _, as, [] => as.map (1, ·)
  | bound + 1, a :: as, b :: bs =>
    match compare (String.ofList a) (String.ofList b) with
    | .lt => (1, a) :: merged bound as (b :: bs)
    | .gt => (2, b) :: merged bound (a :: as) bs
    | .eq => (3, a) :: merged bound as bs

/-- The tool `comm`. -/
def comm : Utility := toWork do
  let flag (c : Char) (name : String) : Flag := ⟨c, false, name, false⟩
  let p ← parse [flag '1' "", flag '2' "", flag '3' "", flag 'c' "check-order",
    flag 'n' "nocheck-order", ⟨'o', true, "output-delimiter", false⟩]
  match p.operands with
  | [] => misuse "missing operand"
  | [a] => misuse s!"missing operand after '{a}'"
  | [a, b] =>
    let linesOfFile (path : String) : Chore (List (List Char)) := do
      match ← readFrom path with
      | .ok (octets, none) => pure (bareLines octets)
      | .ok (_, some fault) => fail s!"{path}: {fault.text}"
      | .error fault => fail s!"{path}: {fault.text}"
    let first ← linesOfFile a
    let second ← linesOfFile b
    let delimiter := (p.last? 'o').getD "\t"
    let hides (column : Nat) : Bool := p.has (Char.ofNat ('0'.toNat + column))
    let shown := merged (first.length + second.length + 1) first second
    shown.forM fun (column, line) => do
      if !hides column then
        let before := (List.range column).filter fun k => 0 < k && !hides k
        put ((before.map fun _ => delimiter.toList).flatten ++ line ++ ['\n'])
    let isOrdered (lines : List (List Char)) : Bool :=
      (lines.zip (lines.drop 1)).all fun (a, b) => decide (String.ofList a ≤ String.ofList b)
    let wants := p.has 'c' || (!p.has 'n' && shown.any fun s => s.1 ≠ 3)
    if wants then
      if !isOrdered first then spoil "file 1 is not in sorted order"
      if !isOrdered second then spoil "file 2 is not in sorted order"
      if !(isOrdered first && isOrdered second) then spoil "input is not in sorted order"
  | _ :: _ :: extra :: _ => misuse s!"extra operand '{extra}'"

end Confine.Tool
