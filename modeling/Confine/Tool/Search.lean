import Confine.Text.Regex
import Confine.Tool.Feed
import Confine.Tool.File
import Confine.Tool.Script

set_option autoImplicit false

/-! # Searching for lines

`grep` shows the lines of files in which patterns match. -/

namespace Confine.Tool

open Confine.System (Status Work)
open Confine.Text (Regex)
open Chore

/-- Something that lines are searched for. -/
inductive Wanted where
  /-- A text. -/
  | text (cs : List Char)
  /-- What an expression matches. -/
  | matching (e : Regex)

/-- What a search is like. -/
structure Search where
  /-- What is wanted; one of these is enough. -/
  wanted : List Wanted
  /-- Whether letters count as equal in both cases. -/
  anyCase : Bool
  /-- Whether only whole words count. -/
  words : Bool
  /-- Whether only whole lines count. -/
  lines : Bool

namespace Search

/-- The ends of the matches of something that start at a place. -/
def endsAt (s : Search) (line : Regex.Line) (place : Nat) : Wanted → List Nat
  | .text cs =>
    let piece := (line.text.extract place (place + cs.length)).toList
    let same := piece.length == cs.length &&
      (piece.zip cs).all fun (a, b) => line.same a b
    if same then [place + cs.length] else []
  | .matching e =>
    let found := (Regex.reaches line e { place }).map Regex.Reach.place
    if s.words || s.lines then found
    else match found with
      | [] => []
      | n :: rest => [rest.foldl max n]

/-- Whether a match fits into the line as it has to. -/
def fits (s : Search) (line : Regex.Line) (start finish : Nat) : Bool :=
  let isWord (k : Nat) : Bool := (line.text[k]?).any Regex.isWordChar
  (!s.lines || (start == 0 && finish == line.text.size)) &&
    (!s.words || ((start == 0 || !isWord (start - 1)) && !isWord finish))

/-- The longest match that starts at a place: its end. -/
def matchAt? (s : Search) (line : Regex.Line) (place : Nat) : Option Nat :=
  let found := (s.wanted.flatMap (s.endsAt line place)).filter (s.fits line place)
  match found with
  | [] => none
  | n :: rest => some (rest.foldl max n)

/-- The matches in a line from a place on that do not overlap. The number bounds how many places
are tried. -/
def matchesFrom (s : Search) (line : Regex.Line) : Nat → Nat → List (Nat × Nat)
  | 0, _ => []
  | bound + 1, place =>
    if line.text.size < place then []
    else
      match s.matchAt? line place with
      | some finish =>
        (place, finish) :: matchesFrom s line bound (max finish (place + 1))
      | none => matchesFrom s line bound (place + 1)

/-- The line for some characters. -/
def lineOf (s : Search) (cs : List Char) : Regex.Line :=
  { text := cs.toArray, anyCase := s.anyCase }

/-- Whether anything wanted is in a line. -/
def finds (s : Search) (cs : List Char) : Bool :=
  let line := s.lineOf cs
  (List.range (line.text.size + 1)).any fun place => (s.matchAt? line place).isSome

end Search

/-! ## Showing lines -/

/-- How found lines are shown. -/
structure Showing where
  /-- The options. -/
  chosen : Parsed
  /-- Whether the names of files are shown. -/
  names : Bool
  /-- How many lines are shown before a found one. -/
  before : Nat
  /-- How many lines are shown after a found one. -/
  after : Nat
  /-- The most lines that are found in a file. -/
  most : Option Nat

/-- What stands in front of a line with a number, or of what starts at a place. The sign tells
found lines from others. -/
def Showing.start (w : Showing) (path sign : String) (n place : Nat) : String :=
  (if w.names then path ++ (if w.chosen.has 'Z' then "\x00" else sign) else "") ++
    (if w.chosen.has 'n' then toString n ++ sign else "") ++
    (if w.chosen.has 'b' then toString place ++ sign else "")

/-- How far the search of a file has come. -/
structure Progress where
  /-- How many lines were read. -/
  lines : Nat := 0
  /-- The place where the line starts. -/
  place : Nat := 0
  /-- The place where the next line starts. -/
  next : Nat := 0
  /-- How many of them were found. -/
  found : Nat := 0
  /-- The lines before this one that are not shown yet, the latest first. -/
  before : List (Nat × Nat × List Char) := []
  /-- How many lines more are shown after a found one. -/
  due : Nat := 0
  /-- The number of the line that was shown last. -/
  shown : Option Nat := none
  /-- Whether nothing more is to be read. -/
  isDone : Bool := false

namespace Showing

/-- Whether only the number or the names of files are shown. -/
def isBrief (w : Showing) : Bool :=
  ['q', 'l', 'L', 'c'].any w.chosen.has

/-- Show a line with its number, after the sign for lines that are left out if there are any. -/
def showLine (w : Showing) (path sign : String) (q : Progress) (n place : Nat)
    (line : List Char) : Chore Progress := do
  if (0 < w.before || 0 < w.after) && q.shown.any (· + 1 < n) then say "--"
  put ((w.start path sign n place).toList ++ line ++ ['\n'])
  return { q with shown := some n }

/-- Show what is to be shown of a found line. -/
def showHit (w : Showing) (s : Search) (path : String) (isBinary : Bool) (q : Progress)
    (line : List Char) : Chore Progress := do
  let n := q.lines
  if w.isBrief then pure { q with isDone := !w.chosen.has 'c' || w.chosen.has 'q' }
  else if isBinary then
    flushOrFail
    complain s!"{path}: binary file matches"
    pure { q with isDone := true }
  else if w.chosen.has 'o' then
    if !w.chosen.has 'v' then
      let parts := (s.matchesFrom (s.lineOf line) (line.length + 1) 0).filter fun m => m.1 < m.2
      parts.forM fun (a, b) =>
        say (w.start path ":" n (q.place + a) ++ String.ofList ((line.take b).drop a))
    pure q
  else
    let q ← q.before.reverse.foldlM (fun q (k, place, line) =>
      w.showLine path "-" q k place line) q
    let q ← w.showLine path ":" q n q.place line
    pure { q with before := [], due := w.after }

/-- Show what is to be shown of a line that was not found. -/
def showOther (w : Showing) (path : String) (q : Progress) (line : List Char) :
    Chore Progress := do
  if w.isBrief || w.chosen.has 'o' then pure q
  else if 0 < q.due then
    let q ← w.showLine path "-" q q.lines q.place line
    pure { q with due := q.due - 1 }
  else pure { q with before := ((q.lines, q.place, line) :: q.before).take w.before }

/-- Search the lines of a file. The number bounds how many there are. -/
def searchLines (w : Showing) (s : Search) (complain : String → Fault → Chore Unit)
    (path : String) : Nat → Feed → Progress → Chore (Progress × Feed)
  | 0, f, q => pure (q, f)
  | bound + 1, f, q => do
    let isFull := w.most.any (· ≤ q.found)
    if q.isDone || (isFull && q.due = 0) then pure (q, f)
    else
      match ← f.next complain with
      | (none, f) => pure (q, f)
      | (some line, f) => do
        let isBinary := (line ++ f.held).contains '\x00' && !w.chosen.has 'a'
        let bare := (withoutEnd line).1
        let q := { q with lines := q.lines + 1, place := q.next, next := q.next + line.length }
        let q ← if (s.finds bare != w.chosen.has 'v') && !isFull then
            w.showHit s path isBinary { q with found := q.found + 1 } bare
          else w.showOther path q bare
        searchLines w s complain path bound f q

/-- Search a file, and tell whether anything was found. -/
def searchFile (w : Showing) (s : Search) (complain : String → Fault → Chore Unit)
    (path : String) : Chore Bool := do
  let p := w.chosen
  let title := if path = "-" then "(standard input)" else path
  let (q, f) ← w.searchLines s complain title Work.mostReads { paths := [path] } {}
  if path = "-" then
    if !p.has 'q' then call (.goBack 0 f.held.length)
  else
    let _ ← f.shut
  let isFound := 0 < q.found
  if p.has 'q' then
    if isFound then throw 0
  else if p.has 'l' then
    if isFound then say title
  else if p.has 'L' then
    if !isFound then say title
  else if p.has 'c' then
    say ((if w.names then title ++ ":" else "") ++ toString q.found)
  return isFound

end Showing

/-- The files below a directory. The number bounds how deep it is. -/
def filesBelow : Nat → String → Chore (List String)
  | 0, _ => pure []
  | depth + 1, path => do
    match ← namesAt path with
    | .error _ => pure [path]
    | .ok names => do
      let found ← names.mapM fun name => filesBelow depth (below path name)
      pure found.flatten

/-- Whether what follows an opening brace are bounds of a repetition. -/
def startsBounds (cs : List Char) : Bool :=
  let rest := cs.dropWhile Char.isDigit
  match rest with
  | '\x7d' :: _ => rest.length < cs.length
  | ',' :: more => (more.dropWhile Char.isDigit).head? == some '\x7d'
  | _ => false

/-- An expression in which braces that open no bounds have backslashes in front of them. If the
digits have a letter of their own it is replaced. The number bounds the characters. -/
def guarded (withLetters : Bool) : Nat → List Char → List Char
  | 0, cs => cs
  | _, [] => []
  | bound + 1, '\\' :: c :: rest =>
    if withLetters && c = 'd' then "[0-9]".toList ++ guarded withLetters bound rest
    else if withLetters && c = 'D' then "[^0-9]".toList ++ guarded withLetters bound rest
    else '\\' :: c :: guarded withLetters bound rest
  | bound + 1, '[' :: rest =>
    let (set, rest) := Script.bracketAt rest
    '[' :: set ++ guarded withLetters bound rest
  | bound + 1, '\x7b' :: rest =>
    if startsBounds rest then '\x7b' :: guarded withLetters bound rest
    else '\\' :: '\x7b' :: guarded withLetters bound rest
  | bound + 1, c :: rest => c :: guarded withLetters bound rest

/-- Warn of a repetition of nothing at the start of an expression. -/
def warnOfStart (cs : List Char) : Chore Unit :=
  match cs with
  | '*' :: _ => complain "warning: * at start of expression"
  | '+' :: _ => complain "warning: + at start of expression"
  | '?' :: _ => complain "warning: ? at start of expression"
  | _ => pure ()

/-- Search the files that are named, with operators of patterns that stand without backslashes, or
with texts. -/
def searchFiles (extended fixed : Bool) : Chore Unit := do
  let flag (c : Char) (name : String) : Flag := ⟨c, false, name, false⟩
  let p ← parse ([flag 'E' "extended-regexp", flag 'F' "fixed-strings", flag 'G' "basic-regexp",
    flag 'P' "perl-regexp", flag 'i' "ignore-case", flag 'y' "", flag 'v' "invert-match",
    flag 'w' "word-regexp", flag 'x' "line-regexp", flag 'c' "count", flag 'l' "files-with-matches",
    flag 'L' "files-without-match", flag 'q' "quiet", flag 'q' "silent", flag 's' "no-messages",
    flag 'n' "line-number", flag 'h' "no-filename", flag 'H' "with-filename",
    flag 'o' "only-matching", flag 'r' "recursive", flag 'R' "dereference-recursive",
    flag 'a' "text", flag 'I' "", flag 'z' "null-data", flag 'Z' "null", flag 'U' "binary",
    flag 'b' "byte-offset", flag 'T' "initial-tab"] ++
    [⟨'e', true, "regexp", false⟩, ⟨'f', true, "file", false⟩, ⟨'m', true, "max-count", false⟩,
      ⟨'A', true, "after-context", false⟩, ⟨'B', true, "before-context", false⟩,
      ⟨'C', true, "context", false⟩, ⟨'k', false, "color", true⟩,
      ⟨'d', true, "directories", false⟩, ⟨'D', true, "devices", false⟩,
      ⟨'N', true, "include", false⟩, ⟨'X', true, "exclude", false⟩]) false 2
  let usage : Chore Unit := do
    let name ← name
    warn (s!"Usage: {name} [OPTION]... PATTERNS [FILE]...\n" ++
      s!"Try '{name} --help' for more information.\n")
    throw 2
  let fromFiles ← (p.all 'f').mapM fun path => do
    match ← readFrom path with
    | .ok (octets, _) => pure (bareLines octets)
    | .error fault => fail s!"{path}: {fault.text}" 2
  let isGiven := p.has 'e' || p.has 'f'
  if !isGiven && p.operands.isEmpty then usage
  let given := if isGiven then p.all 'e' else p.operands.take 1
  let patterns := given.flatMap (fun text => text.toList.splitOn '\n') ++ fromFiles.flatten
  let paths := if isGiven then p.operands else p.operands.drop 1
  let kind := p.lastOf? ['E', 'F', 'G', 'P']
  let isFixed := kind.elim fixed (· == 'F')
  let isExtended := kind.elim extended fun c => c == 'E' || c == 'P'
  let wanted ← patterns.mapM fun cs => do
    if isFixed then pure (Wanted.text cs)
    else
      let cs := if isExtended then guarded (kind == some 'P') (cs.length + 1) cs else cs
      if isExtended && kind != some 'P' then warnOfStart cs
      match Regex.parse isExtended cs with
      | .ok e => pure (Wanted.matching e)
      | .error fault => fail fault.message 2
  let search : Search := {
    wanted, anyCase := p.has 'i' || p.has 'y', words := p.has 'w', lines := p.has 'x' }
  let deep := p.has 'r' || p.has 'R'
  let numberOf (c : Char) : Chore (Option Nat) := do
    match p.last? c with
    | none => pure none
    | some text =>
      match natural? text.toList with
      | some n => pure (some n)
      | none =>
        if c = 'm' then fail "invalid max count" 2
        else fail s!"{text}: invalid context length argument" 2
  let both := (← numberOf 'C').getD 0
  let before := (← numberOf 'B').getD both
  let after := (← numberOf 'A').getD both
  let paths := if paths.isEmpty then (if deep then ["."] else ["-"]) else paths
  let names := p.lastOf? ['h', 'H'] == some 'H' ||
    ((1 < paths.length || deep) && p.lastOf? ['h', 'H'] != some 'h')
  let showing : Showing :=
    { chosen := p, names, before, after, most := ← numberOf 'm' }
  let skips := p.last? 'd' == some "skip"
  let paths ← if skips then paths.filterM fun path => do return !(← isDirectory path)
    else pure paths
  let files ← paths.mapM fun path => do
    if deep && path ≠ "-" then
      if ← isDirectory path then filesBelow mostDepth path else pure [path]
    else pure [path]
  let complainOf (path : String) (fault : Fault) : Chore Unit := do
    if !p.has 's' then complain s!"{path}: {fault.text}"
    leave 2
  let found ← files.flatten.mapM fun path => showing.searchFile search complainOf path
  let any := found.any fun b => b
  let status := (← get).status
  if any && (p.has 'q' || status = 0) then leave 0
  else if status = 0 then leave 1

/-- The tool `grep`. -/
def grep : Utility := toWork (searchFiles false false)

/-- The tool `egrep`. -/
def egrep : Utility := toWork (searchFiles true false)

/-- The tool `fgrep`. -/
def fgrep : Utility := toWork (searchFiles false true)

end Confine.Tool
