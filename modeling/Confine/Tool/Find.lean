import Confine.Shell.Pattern
import Confine.Tool.Feed
import Confine.Tool.File
import Confine.Tool.Program

set_option autoImplicit false

/-! # Finding files

`find` goes through directories and everything below them, and applies an expression to each path:
tests, actions, and combinations of these. -/

namespace Confine.Tool

open Confine.System (Status Kind)
open Chore

/-! ## Expressions -/

/-- A number that is compared: more than it, less than it, or just it. -/
structure Comparison where
  /-- The sign in front. -/
  sign : Option Char
  /-- The number. -/
  number : Nat

/-- Whether a number compares as asked for. -/
def Comparison.holds (c : Comparison) (n : Nat) : Bool :=
  match c.sign with
  | some '+' => decide (c.number < n)
  | some '-' => decide (n < c.number)
  | _ => n == c.number

/-- What is asked about a path, or done to it. -/
inductive Query where
  /-- Always true. -/
  | yes
  /-- Always false. -/
  | no
  /-- The last name matches. -/
  | name (pattern : String) (anyCase : Bool)
  /-- The path matches. -/
  | path (pattern : String) (anyCase : Bool)
  /-- It is one of some kinds. -/
  | kind (letters : List Char)
  /-- A file or a directory that holds nothing. -/
  | empty
  /-- It has so many blocks of a size. -/
  | size (count : Comparison) (unit : Nat)
  /-- It has permissions: exactly, all of them, or any of them. -/
  | permissions (sign : Option Char) (bits : Nat)
  /-- It was changed later than something else. -/
  | newer (time : Int)
  /-- Show the path. -/
  | show (ending : Char)
  /-- Show the path in some format. -/
  | format (text : String)
  /-- Remove it. -/
  | delete
  /-- Do not go below it. -/
  | prune
  /-- Stop. -/
  | quit
  /-- Run a program for it. -/
  | run (argv : List String)
  /-- Run a program for all paths at the end. -/
  | runAll (argv : List String)
  /-- The contrary. -/
  | not (q : Query)
  /-- Both. -/
  | and (a b : Query)
  /-- One of two. -/
  | or (a b : Query)
  /-- The second one after the first. -/
  | after (a b : Query)

namespace Query

/-- Whether anything is done but asking. -/
def acts : Query → Bool
  | .show _ | .format _ | .delete | .run _ | .runAll _ | .quit => true
  | .not q => q.acts
  | .and a b | .or a b | .after a b => a.acts || b.acts
  | _ => false

/-- Whether paths are removed. -/
def deletes : Query → Bool
  | .delete => true
  | .not q => q.deletes
  | .and a b | .or a b | .after a b => a.deletes || b.deletes
  | _ => false

/-- The programs that are run at the end. -/
def runsAtEnd : Query → List (List String)
  | .runAll argv => [argv]
  | .not q => q.runsAtEnd
  | .and a b | .or a b | .after a b => a.runsAtEnd ++ b.runsAtEnd
  | _ => []

end Query

/-- How deep a search goes. -/
structure Depth where
  /-- The least depth of a path that counts. -/
  least : Nat := 0
  /-- The greatest one. -/
  most : Option Nat := none
  /-- Whether what is in a directory comes before it. -/
  innerFirst : Bool := false
  /-- Whether links are followed. -/
  follows : Bool := false

/-! ## Reading expressions -/

/-- Read a number that is compared. -/
def comparison? (cs : List Char) : Option Comparison :=
  match cs with
  | '+' :: rest => (natural? rest).map fun n => ⟨some '+', n⟩
  | '-' :: rest => (natural? rest).map fun n => ⟨some '-', n⟩
  | _ => (natural? cs).map fun n => ⟨none, n⟩

/-- Read how many blocks of which size. -/
def sizeQuery? (text : String) : Option Query :=
  let cs := text.toList
  let unit? := match cs.getLast? with
    | some 'c' => some 1
    | some 'w' => some 2
    | some 'k' => some 1024
    | some 'M' => some 1048576
    | some 'G' => some 1073741824
    | some 'b' => some 512
    | _ => none
  match unit? with
  | some unit => (comparison? cs.dropLast).map fun c => .size c unit
  | none => (comparison? cs).map fun c => .size c 512

/-- Read the arguments of a program up to a semicolon, or up to a plus sign after a mark. -/
def programOf? : List String → Option (List String × Bool × List String)
  | [] => none
  | ";" :: rest => some ([], false, rest)
  | "\x7b\x7d" :: "+" :: rest => some ([], true, rest)
  | a :: rest => do
    let (argv, all, rest) ← programOf? rest
    some (a :: argv, all, rest)

mutual

/-- Read what is asked or done first. The number bounds the words. -/
def queryAt (d : Depth) : Nat → List String → Chore (Query × Depth × List String)
  | 0, _ | _, [] => fail "expected an expression"
  | bound + 1, word :: rest => do
    let missing {α : Type} : Chore α := fail s!"missing argument to \x60{word}'"
    let plain (q : Query) : Chore (Query × Depth × List String) := pure (q, d, rest)
    let taking (make : String → Chore (Query × Depth)) :
        Chore (Query × Depth × List String) :=
      match rest with
      | [] => missing
      | a :: rest => do
        let (q, d) ← make a
        pure (q, d, rest)
    let asking (make : String → Query) : Chore (Query × Depth × List String) :=
      taking fun a => pure (make a, d)
    let depth (make : Nat → Depth) : Chore (Query × Depth × List String) :=
      taking fun a =>
        match natural? a.toList with
        | some n => pure (.yes, make n)
        | none =>
          fail s!"Expected a positive decimal integer argument to {word}, but got '{a}'"
    match word with
    | "(" =>
      let (q, d, rest) ← choicesAt d bound rest
      match rest with
      | ")" :: rest => pure (q, d, rest)
      | _ => fail "invalid expression; I was expecting to find a ')' somewhere but did not see one."
    | "!" | "-not" =>
      if rest.isEmpty then fail s!"expected an expression after '{word}'"
      else
        let (q, d, rest) ← queryAt d bound rest
        pure (.not q, d, rest)
    | "-true" => plain .yes
    | "-false" => plain .no
    | "-name" => asking fun a => .name a false
    | "-iname" => asking fun a => .name a true
    | "-path" | "-wholename" => asking fun a => .path a false
    | "-ipath" => asking fun a => .path a true
    | "-type" => taking fun a => do
        let letters := a.toList.filter (· ≠ ',')
        match letters.find? fun c => !"fdlpcbs".toList.contains c with
        | some c => fail s!"Unknown argument to -type: {c}"
        | none => pure (.kind letters, d)
    | "-empty" => plain .empty
    | "-size" => taking fun a =>
        match sizeQuery? a with
        | some q => pure (q, d)
        | none => fail s!"Invalid argument \x60{a}' to -size"
    | "-perm" => taking fun a => do
        let (sign, text) := match a.toList with
          | '-' :: rest => (some '-', rest)
          | '/' :: rest => (some '/', rest)
          | cs => (none, cs)
        match permissionsBy 0 false 0 (String.ofList text) with
        | some bits => pure (.permissions sign bits, d)
        | none => fail s!"invalid mode \x60{a}'"
    | "-newer" => taking fun a => do
        match ← look a with
        | .ok s => pure (.newer s.changed, d)
        | .error fault => fail s!"'{a}': {fault.text}"
    | "-print" => plain (.show '\n')
    | "-print0" => plain (.show '\x00')
    | "-printf" => asking .format
    | "-delete" => pure (.delete, { d with innerFirst := true }, rest)
    | "-depth" | "-d" => pure (.yes, { d with innerFirst := true }, rest)
    | "-prune" => plain .prune
    | "-quit" => plain .quit
    | "-follow" => pure (.yes, { d with follows := true }, rest)
    | "-xdev" | "-mount" | "-noleaf" | "-nowarn" | "-warn" => plain .yes
    | "-maxdepth" => depth fun n => { d with most := some n }
    | "-mindepth" => depth fun n => { d with least := n }
    | "-user" | "-group" => asking fun a => if a = "root" || a = "0" then .yes else .no
    | "-uid" | "-gid" => asking fun a => if a = "0" then .yes else .no
    | "-exec" | "-execdir" =>
      match programOf? rest with
      | none => missing
      | some (argv, all, rest) =>
        if argv.isEmpty && !all then missing
        else pure (if all then .runAll argv else .run argv, d, rest)
    | _ =>
      if word.startsWith "-" then fail s!"unknown predicate \x60{word}'"
      else
        fail s!"paths must precede expression: \x60{word}'"

/-- Read what is asked one after another, all of which has to hold. -/
def sequenceAt (d : Depth) : Nat → List String → Chore (Query × Depth × List String)
  | 0, rest => pure (.yes, d, rest)
  | bound + 1, words => do
    let (first, d, rest) ← queryAt d bound words
    match rest with
    | [] | ")" :: _ | "-o" :: _ | "-or" :: _ | "," :: _ => pure (first, d, rest)
    | "-a" :: more | "-and" :: more =>
      let (second, d, rest) ← sequenceAt d bound more
      pure (.and first second, d, rest)
    | _ =>
      let (second, d, rest) ← sequenceAt d bound rest
      pure (.and first second, d, rest)

/-- Read choices. -/
def choicesAt (d : Depth) : Nat → List String → Chore (Query × Depth × List String)
  | 0, rest => pure (.yes, d, rest)
  | bound + 1, words => do
    let (first, d, rest) ← sequenceAt d bound words
    match rest with
    | "-o" :: more | "-or" :: more =>
      let (second, d, rest) ← choicesAt d bound more
      pure (.or first second, d, rest)
    | "," :: more =>
      let (second, d, rest) ← choicesAt d bound more
      pure (.after first second, d, rest)
    | _ => pure (first, d, rest)

end

/-! ## Applying expressions -/

/-- A path that was found. -/
structure Found where
  /-- The path. -/
  path : String
  /-- How deep it is. -/
  depth : Nat
  /-- What is there. -/
  status : Status

/-- The letter of a kind. -/
def kindLetter : Kind → Char
  | .file => 'f'
  | .directory => 'd'
  | .device => 'c'
  | .pipe => 'p'
  | .link => 'l'

/-- What has come of a search so far. -/
structure Hunt where
  /-- The paths for the programs that are run at the end, the latest first. -/
  waiting : List (List String × String) := []
  /-- Whether the search goes below the last path. -/
  pruned : Bool := false
  /-- Whether the search has stopped. -/
  isOver : Bool := false

/-- A format applied to a path that was found. The number bounds the characters. -/
def Found.formatted (f : Found) : Nat → List Char → List Char
  | 0, _ | _, [] => []
  | bound + 1, '%' :: c :: rest =>
    let text : List Char := match c with
      | 'p' => f.path.toList
      | 'f' => (lastName f.path).toList
      | 's' => (toString f.status.size).toList
      | 'd' => (toString f.depth).toList
      | 'm' => Nat.toDigits 8 f.status.permissions
      | 'M' => (modeLetters f.status).toList
      | 'y' => [kindLetter f.status.kind]
      | 'u' | 'g' => "root".toList
      | 'h' =>
        let names := f.path.toList.splitOn '/'
        if names.length < 2 then ['.'] else ['/'].intercalate names.dropLast
      | '%' => ['%']
      | c => ['%', c]
    text ++ f.formatted bound rest
  | bound + 1, '\\' :: c :: rest =>
    let d := match c with
      | 'n' => '\n'
      | 't' => '\t'
      | '0' => '\x00'
      | c => c
    d :: f.formatted bound rest
  | bound + 1, c :: rest => c :: f.formatted bound rest

/-- A name in quotes. -/
def quoted (name : String) : String :=
  s!"'{name}'"

/-- A pattern in which backslashes take the meaning from what follows them. -/
def patternOf : List Char → List Shell.PatternChar
  | [] => []
  | '\\' :: c :: rest => (c, true) :: patternOf rest
  | c :: rest => (c, false) :: patternOf rest

/-- Whether a text as a whole matches a pattern. -/
def matchesPattern (anyCase : Bool) (pattern text : String) : Bool :=
  let lower (s : String) : List Char := if anyCase then s.toList.map Char.toLower else s.toList
  Shell.patternMatches (patternOf (lower pattern)) (lower text)

/-- Apply an expression to a path that was found. -/
def Query.apply (f : Found) : Query → Hunt → Chore (Bool × Hunt)
  | .yes, h => pure (true, h)
  | .no, h => pure (false, h)
  | .name pattern anyCase, h => pure (matchesPattern anyCase pattern (lastName f.path), h)
  | .path pattern anyCase, h => pure (matchesPattern anyCase pattern f.path, h)
  | .kind letters, h => pure (letters.contains (kindLetter f.status.kind), h)
  | .empty, h => do
    match f.status.kind with
    | .file => pure (f.status.size == 0, h)
    | .directory => do
      match ← namesAt f.path with
      | .ok names => pure (names.isEmpty, h)
      | .error _ => pure (false, h)
    | _ => pure (false, h)
  | .size count unit, h => pure (count.holds ((f.status.size + unit - 1) / unit), h)
  | .permissions sign bits, h =>
    let have' := f.status.permissions &&& 0o7777
    let holds := match sign with
      | some '-' => have' &&& bits == bits
      | some '/' => bits == 0 || have' &&& bits != 0
      | _ => have' == bits
    pure (holds, h)
  | .newer time, h => pure (decide (time < f.status.changed), h)
  | .show ending, h => do
    put (f.path.toList ++ [ending])
    pure (true, h)
  | .format text, h => do
    put (f.formatted (text.length + 1) text.toList)
    pure (true, h)
  | .delete, h => do
    if f.path = "." then pure (true, h)
    else
      let path := Text.ofOctets f.path
      let isDirectory := f.status.kind == .directory
      let removed ← if isDirectory then call (.removeDirectory path) else call (.remove path)
      match removed with
      | .ok () => pure (true, h)
      | .error fault =>
        spoil s!"cannot delete '{f.path}': {fault.text}"
        pure (false, h)
  | .prune, h => pure (true, { h with pruned := true })
  | .quit, h => pure (true, { h with isOver := true })
  | .run argv, h => do
    let report ← launch quoted (argv.map (substituted "\x7b\x7d" f.path))
    pure (statusOf report == 0, h)
  | .runAll argv, h => pure (true, { h with waiting := (argv, f.path) :: h.waiting })
  | .not q, h => do
    let (b, h) ← q.apply f h
    pure (!b, h)
  | .and a b, h => do
    let (x, h) ← a.apply f h
    if x && !h.isOver then b.apply f h else pure (x, h)
  | .or a b, h => do
    let (x, h) ← a.apply f h
    if x || h.isOver then pure (x, h) else b.apply f h
  | .after a b, h => do
    let (_, h) ← a.apply f h
    if h.isOver then pure (true, h) else b.apply f h

/-- Search a path and what is below it. The first number bounds how deep it is. -/
def searchTree (d : Depth) (q : Query) : Nat → Nat → String → Hunt → Chore Hunt
  | 0, _, _, h => pure h
  | bound + 1, depth, path, h => do
    if h.isOver then pure h
    else
      let found ← look path d.follows
      let found ← if found.isOk then pure found else look path false
      match found with
      | .error fault =>
        spoil s!"'{path}': {fault.text}"
        pure h
      | .ok status =>
        let counts := decide (d.least ≤ depth)
        let visit (h : Hunt) : Chore Hunt := do
          if counts then
            let (_, h) ← q.apply { path, depth, status } h
            Feed.settle
            pure h
          else pure h
        let h := { h with pruned := false }
        let h ← if d.innerFirst then pure h else visit h
        let deeper := status.kind == .directory && d.most.all (depth < ·) &&
          (!h.pruned || d.innerFirst)
        let h ← if !deeper || h.isOver then pure h
          else
            match ← namesAt path with
            | .error fault =>
              spoil s!"'{path}': {fault.text}"
              pure h
            | .ok names =>
              names.foldlM (fun h name => searchTree d q bound (depth + 1) (below path name) h) h
        if d.innerFirst && !h.isOver then visit h else pure h

/-- The tool `find`. -/
def find : Utility := toWork do
  let args := (← get).setting.arguments
  let isOption (a : String) : Bool := ["-H", "-L", "-P"].contains a
  let follows := (args.takeWhile isOption).getLast? == some "-L"
  let args := args.dropWhile isOption
  let isPath (a : String) : Bool := !(a.startsWith "-" || a = "(" || a = "!" || a = ")")
  let paths := args.takeWhile isPath
  let words := args.drop paths.length
  let paths := if paths.isEmpty then ["."] else paths
  let start : Depth := { follows }
  let (q, d, rest) ← if words.isEmpty then pure (.yes, start, [])
    else choicesAt start (2 * words.length + 4) words
  match rest with
  | ")" :: _ => fail "you have too many ')'"
  | _ => pure ()
  let q := if q.acts then q else .and q (.show '\n')
  let h ← paths.foldlM (fun h path => searchTree d q mostDepth 0 path h) {}
  q.runsAtEnd.forM fun argv => do
    let found := (h.waiting.reverse.filter fun w => w.1 == argv).map Prod.snd
    if !found.isEmpty then
      let report ← launch quoted (argv ++ found)
      if statusOf report ≠ 0 then leave 1

end Confine.Tool
