import Confine.Text.Regex
import Confine.Tool.Letter

set_option autoImplicit false

/-! # Editing scripts

A script is a list of instructions with addresses, which choose the lines that an instruction is
for. Instructions in braces become jumps over them, so that a script is a flat list. -/

namespace Confine.Tool

open Confine.Text (Regex)

/-- What chooses a line. -/
inductive Address where
  /-- The line with a number. -/
  | line (n : Nat)
  /-- The last line. -/
  | last
  /-- Lines in steps from the first on. -/
  | step (first step : Nat)
  /-- Lines that an expression matches; `none` for the expression that was used last. -/
  | matching (e : Option Regex) (anyCase : Bool)
  /-- So many lines after the first one. -/
  | after (n : Nat)
  /-- The next line whose number is a multiple. -/
  | multiple (n : Nat)

/-- A part of what a match is replaced by. -/
inductive Piece where
  /-- A text. -/
  | text (cs : List Char)
  /-- What a group has matched; zero for the whole match. -/
  | group (n : Nat)
  /-- A change of the case of what follows: `U`, `L`, `u`, `l` or `E`. -/
  | case (letter : Char)

/-- What an instruction does. -/
inductive Edit where
  /-- Skip to another instruction if the line is not chosen. -/
  | block (past : Nat)
  /-- Nothing. -/
  | nothing
  /-- Replace matches. -/
  | replace (e : Option Regex) (anyCase : Bool) (substitute : List Piece) (all : Bool) (nth : Nat)
      (prints : Bool) (file : Option String)
  /-- Put characters in place of others. -/
  | change (pairs : List (Char × Char))
  /-- An instruction of one letter. -/
  | plain (letter : Char)
  /-- An instruction of one letter with a text. -/
  | withText (letter : Char) (text : List Char)
  /-- An instruction of one letter with a number, if there is one. -/
  | withNumber (letter : Char) (n : Option Nat)
  /-- An instruction of one letter with the name of a file. -/
  | withFile (letter : Char) (path : String)
  /-- Go on at a label. -/
  | jump (letter : Char) (label : String)
  /-- A label. -/
  | label (name : String)

/-- An instruction. -/
structure Instruction where
  /-- The line, or the first one. -/
  first : Option Address := none
  /-- The last line. -/
  last : Option Address := none
  /-- Whether it is for the other lines. -/
  isNegated : Bool := false
  /-- What it does. -/
  edit : Edit

namespace Script

/-- Why a script cannot be read. -/
structure Refusal where
  /-- The reason. -/
  text : String
  /-- How many characters were not read yet; `none` if it is about the script as a whole. -/
  left : Option Nat

/-- Refuse a script in front of some characters. -/
def refuse {α : Type} (text : String) (left : List Char) : Except Refusal α :=
  .error ⟨text, some left.length⟩

/-- Blanks at the start of a text are dropped. -/
def skipBlanks (cs : List Char) : List Char :=
  cs.dropWhile fun c => c == ' ' || c == '\t'

/-- The number at the start of a text, and what follows it. -/
def numberAt (cs : List Char) : Option Nat × List Char :=
  let digits := cs.takeWhile Char.isDigit
  (natural? digits, cs.drop digits.length)

/-! ## Expressions -/

/-- A set in brackets up to its end, after the opening bracket. -/
def bracketAt (cs : List Char) : List Char × List Char :=
  let rec go : Nat → List Char → List Char × List Char
    | 0, cs => ([], cs)
    | _, [] => ([], [])
    | _, ']' :: rest => ([']'], rest)
    | bound + 1, '[' :: d :: rest =>
      if [':', '.', '='].contains d then
        let inner := rest.takeWhile (· ≠ ']')
        let (text, after) := go bound (rest.drop (inner.length + 1))
        ('[' :: d :: inner ++ ']' :: text, after)
      else
        let (text, after) := go bound (d :: rest)
        ('[' :: text, after)
    | bound + 1, c :: rest =>
      let (text, after) := go bound rest
      (c :: text, after)
  let front := (if cs.head? = some '^' then cs.take 1 else [])
  let rest := cs.drop front.length
  let close := (if rest.head? = some ']' then rest.take 1 else [])
  let (text, after) := go (cs.length + 1) (rest.drop close.length)
  (front ++ close ++ text, after)

/-- The text up to a delimiter that is not after a backslash, and what follows it. A backslash is
dropped in front of the delimiter. Where an expression is read, delimiters in brackets do not
count. The number bounds the characters. -/
def untilDelimiter (d : Char) (isExpression : Bool) :
    Nat → List Char → Option (List Char × List Char)
  | 0, _ => none
  | _, [] => none
  | _, '\\' :: [] => none
  | bound + 1, '\\' :: c :: rest => do
    let (text, after) ← untilDelimiter d isExpression bound rest
    if c = d ∧ (isExpression ∨ c ≠ '&') then some (c :: text, after)
    else some ('\\' :: c :: text, after)
  | bound + 1, c :: rest =>
    if c = d then some ([], rest)
    else if c = '\n' then none
    else if c = '[' ∧ isExpression then do
      let (set, rest) := bracketAt rest
      let (text, after) ← untilDelimiter d isExpression bound rest
      some (c :: set ++ text, after)
    else do
      let (text, after) ← untilDelimiter d isExpression bound rest
      some (c :: text, after)

/-- The text up to a delimiter, and what follows it. -/
def delimited (d : Char) (isExpression : Bool) (cs : List Char) :
    Option (List Char × List Char) :=
  untilDelimiter d isExpression (cs.length + 1) cs

/-- The value of digits in a base. -/
def valueOf (base : Nat) (cs : List Char) : Nat :=
  let digit (c : Char) : Nat :=
    if c.isDigit then c.toNat - '0'.toNat else c.toLower.toNat - 'a'.toNat + 10
  cs.foldl (fun n c => n * base + digit c) 0

/-- The character that a letter after a backslash stands for, with what follows, if it is one of
those that name characters. -/
def namedChar? (c : Char) (rest : List Char) : Option (Char × List Char) :=
  let number (base most : Nat) (isDigit : Char → Bool) : Option (Char × List Char) :=
    let digits := (rest.take most).takeWhile isDigit
    if digits.isEmpty then none
    else some (Char.ofNat (valueOf base digits % 256), rest.drop digits.length)
  match c with
  | 'a' => some ('\x07', rest)
  | 'f' => some ('\x0c', rest)
  | 't' => some ('\t', rest)
  | 'v' => some ('\x0b', rest)
  | 'r' => some ('\r', rest)
  | 'd' => number 10 3 Char.isDigit
  | 'o' => number 8 3 fun c => '0' ≤ c && c ≤ '7'
  | 'x' => number 16 2 fun c => c.isDigit || ('a' ≤ c.toLower && c.toLower ≤ 'f')
  | 'c' => (rest.head?).map fun d =>
      (Char.ofNat (d.toUpper.toNat ^^^ 64), rest.drop 1)
  | _ => none

/-- An expression with the names of characters replaced by the characters. The number bounds the
characters. -/
def withChars (inSet : Bool) : Nat → List Char → List Char
  | 0, cs => cs
  | _, [] => []
  | bound + 1, '\\' :: c :: rest =>
    match namedChar? c rest with
    | some (d, rest) =>
      let isSpecial := "*.[]^$\\/+?(){}|&".toList.contains d
      if isSpecial && !inSet then '\\' :: d :: withChars inSet bound rest
      else d :: withChars inSet bound rest
    | none =>
      if inSet then
        if c = 'n' then '\n' :: withChars inSet bound rest
        else '\\' :: withChars inSet bound (c :: rest)
      else '\\' :: c :: withChars inSet bound rest
  | bound + 1, '[' :: rest =>
    if inSet then '[' :: withChars inSet bound rest
    else
      let (set, rest) := bracketAt rest
      '[' :: withChars true bound set ++ withChars false bound rest
  | bound + 1, c :: rest => c :: withChars inSet bound rest

/-- The expression that a text writes; the empty text stands for the last one. -/
def expressionOf (extended : Bool) (cs left : List Char) : Except Refusal (Option Regex) :=
  if cs.isEmpty then .ok none
  else
    match Regex.parse extended (withChars false (cs.length + 1) cs) with
    | .ok e => .ok (some e)
    | .error fault => refuse fault.message left

/-- The parts of a replacement. The number bounds the characters. -/
def piecesOf : Nat → List Char → List Piece
  | 0, _ => []
  | _, [] => []
  | bound + 1, '&' :: rest => .group 0 :: piecesOf bound rest
  | bound + 1, '\\' :: c :: rest =>
    if c.isDigit then .group (c.toNat - '0'.toNat) :: piecesOf bound rest
    else if ['U', 'L', 'u', 'l', 'E'].contains c then .case c :: piecesOf bound rest
    else if c = 'n' then .text ['\n'] :: piecesOf bound rest
    else
      match namedChar? c rest with
      | some (d, rest) => .text [d] :: piecesOf bound rest
      | none => .text [c] :: piecesOf bound rest
  | bound + 1, cs =>
    let plain := cs.takeWhile fun c => c ≠ '&' ∧ c ≠ '\\'
    if plain.isEmpty then [.text cs]
    else .text plain :: piecesOf bound (cs.drop plain.length)

/-! ## Addresses -/

/-- Read an address, if there is one. -/
def addressAt (extended : Bool) (cs : List Char) :
    Except Refusal (Option Address × List Char) := do
  let pattern (d : Char) (rest : List Char) : Except Refusal (Option Address × List Char) := do
    match delimited d true rest with
    | none => refuse "unterminated address regex" []
    | some (text, after) =>
      let flags := after.takeWhile fun c => c == 'I' || c == 'M'
      let after := after.drop flags.length
      let e ← expressionOf extended text after
      .ok (some (.matching e (flags.contains 'I')), after)
  match cs with
  | '$' :: rest => .ok (some .last, rest)
  | '/' :: rest => pattern '/' rest
  | '\\' :: d :: rest => pattern d rest
  | '+' :: rest | '~' :: rest =>
    refuse "invalid usage of +N or ~N as first address" (numberAt rest).2
  | _ =>
    match numberAt cs with
    | (none, _) => .ok (none, cs)
    | (some n, after) =>
      match skipBlanks after with
      | '~' :: rest =>
        let (step, rest) := numberAt (skipBlanks rest)
        .ok (some (.step n (step.getD 0)), rest)
      | _ => .ok (some (.line n), after)

/-- Read the second address of a pair. -/
def secondAt (extended : Bool) (cs : List Char) :
    Except Refusal (Option Address × List Char) :=
  let number (make : Nat → Address) (rest : List Char) :
      Except Refusal (Option Address × List Char) :=
    let (n, rest) := numberAt rest
    .ok (some (make (n.getD 0)), rest)
  match cs with
  | '+' :: rest => number .after rest
  | '~' :: rest => number .multiple rest
  | _ => addressAt extended cs

/-! ## Instructions -/

/-- Read the text of an instruction that adds one. -/
def textAt : List Char → List Char × List Char
  | [] => ([], [])
  | '\\' :: [] => ([], [])
  | '\\' :: c :: rest =>
    let (text, after) := textAt rest
    let named := if c = 'n' then some '\n' else (namedChar? c []).map Prod.fst
    (named.getD c :: text, after)
  | '\n' :: rest => ([], rest)
  | c :: rest =>
    let (text, after) := textAt rest
    (c :: text, after)

/-- What follows an instruction: the end, or a separator. -/
def endOf (cs : List Char) : Except Refusal (List Char) :=
  match skipBlanks cs with
  | [] => .ok []
  | '\n' :: rest | ';' :: rest => .ok rest
  | '\x7d' :: rest => .ok ('\x7d' :: rest)
  | '#' :: rest => .ok (rest.dropWhile (· ≠ '\n'))
  | _ :: rest => refuse "extra characters after command" rest

/-- The flags of a replacement. -/
structure Flags where
  /-- Whether all matches are replaced. -/
  all : Bool := false
  /-- The first match that is replaced. -/
  nth : Option Nat := none
  /-- Whether the line is shown if anything was replaced. -/
  prints : Bool := false
  /-- Whether letters count as equal in both cases. -/
  anyCase : Bool := false
  /-- The file that the line is written to if anything was replaced. -/
  file : Option String := none

/-- Read the flags of a replacement after some others. The number bounds how many there are. -/
def flagsAt : Nat → Flags → List Char → Except Refusal (Flags × List Char)
  | 0, f, cs => .ok (f, cs)
  | bound + 1, f, cs =>
    match cs with
    | 'g' :: rest =>
      if f.all then refuse "multiple \x60g' options to \x60s' command" rest
      else flagsAt bound { f with all := true } rest
    | 'p' :: rest =>
      if f.prints then refuse "multiple \x60p' options to \x60s' command" rest
      else flagsAt bound { f with prints := true } rest
    | 'i' :: rest | 'I' :: rest => flagsAt bound { f with anyCase := true } rest
    | 'm' :: rest | 'M' :: rest | ' ' :: rest | '\t' :: rest => flagsAt bound f rest
    | 'w' :: rest =>
      let path := (skipBlanks rest).takeWhile (· ≠ '\n')
      if path.isEmpty then refuse "missing filename in r/R/w/W commands" []
      else
        .ok ({ f with file := some (String.ofList path) }, (skipBlanks rest).drop path.length)
    | c :: rest =>
      if c.isDigit then
        match numberAt cs with
        | (some 0, rest) => refuse "number option to \x60s' command may not be zero" rest
        | (n, rest) =>
          if f.nth.isSome then refuse "multiple number options to \x60s' command" rest
          else flagsAt bound { f with nth := n } rest
      else if ['\n', ';', '\x7d', '#'].contains c then .ok (f, cs)
      else refuse "unknown option to \x60s'" rest
    | [] => .ok (f, [])

/-- Read a replacement after its letter. -/
def replacementAt (extended : Bool) (cs : List Char) : Except Refusal (Edit × List Char) := do
  let unfinished {α : Type} : Except Refusal α := refuse "unterminated \x60s' command" []
  match cs with
  | [] => unfinished
  | d :: rest =>
    match delimited d true rest with
    | none => unfinished
    | some (pattern, rest) =>
      match delimited d false rest with
      | none => unfinished
      | some (substitute, rest) =>
        let (f, rest) ← flagsAt (rest.length + 1) {} rest
        let e ← expressionOf extended pattern rest
        let pieces := piecesOf (substitute.length + 1) substitute
        let groups := pieces.foldl (fun n piece =>
          match piece with
          | .group k => max n k
          | _ => n) 0
        if e.any fun e => decide (e.groupCount < groups) then
          refuse s!"invalid reference \\{groups} on \x60s' command's RHS" rest
        else
          let rest ← match endOf rest with
            | .ok rest => .ok rest
            | .error r => .error { r with text := "unknown option to \x60s'" }
          .ok (.replace e f.anyCase pieces f.all (f.nth.getD 1) f.prints f.file, rest)

/-- Characters without the backslashes that are in front of some of them. -/
def unescaped : List Char → List Char
  | [] => []
  | '\\' :: 'n' :: rest => '\n' :: unescaped rest
  | '\\' :: 't' :: rest => '\t' :: unescaped rest
  | '\\' :: '\\' :: rest => '\\' :: unescaped rest
  | c :: rest => c :: unescaped rest

/-- Read characters and what is put in their place, after the letter. -/
def changeAt (cs : List Char) : Except Refusal (Edit × List Char) := do
  let unfinished {α : Type} : Except Refusal α := refuse "unterminated \x60y' command" []
  match cs with
  | [] => unfinished
  | d :: rest =>
    match delimited d false rest with
    | none => unfinished
    | some (one, rest) =>
      match delimited d false rest with
      | none => unfinished
      | some (two, rest) =>
        let one := unescaped one
        let two := unescaped two
        if one.length ≠ two.length then
          refuse "strings for \x60y' command are different lengths" rest
        else .ok (.change (one.zip two), ← endOf rest)

/-- Read a label. -/
def labelAt (cs : List Char) : String × List Char :=
  let cs := skipBlanks cs
  let name := cs.takeWhile fun c => !(['\n', ';', ' ', '\x7d'].contains c)
  (String.ofList name, cs.drop name.length)

/-- Read what an instruction does after its letter, apart from braces. -/
def editAt (extended : Bool) (c : Char) (cs : List Char) : Except Refusal (Edit × List Char) := do
  if c = 's' then replacementAt extended cs
  else if c = 'y' then changeAt cs
  else if ['a', 'i', 'c'].contains c then
    let rest := skipBlanks cs
    if rest.isEmpty then refuse "expected \\ after \x60a', \x60c' or \x60i'" []
    else
      let rest := match rest with
        | '\\' :: more =>
          match skipBlanks more with
          | '\n' :: more => more
          | _ => more
        | _ => rest
      let (text, after) := textAt rest
      .ok (.withText c text, after)
  else if c = ':' then
    let (name, rest) := labelAt cs
    if name.isEmpty then refuse "\":\" lacks a label" rest
    else .ok (.label name, ← endOf rest)
  else if ['b', 't', 'T'].contains c then
    let (name, rest) := labelAt cs
    .ok (.jump c name, ← endOf rest)
  else if ['r', 'w', 'R', 'W'].contains c then
    let path := (skipBlanks cs).takeWhile (· ≠ '\n')
    if path.isEmpty then refuse "missing filename in r/R/w/W commands" (skipBlanks cs)
    else .ok (.withFile c (String.ofList path), ((skipBlanks cs).drop path.length).drop 1)
  else if ['q', 'Q', 'l', 'L'].contains c then
    let (n, rest) := numberAt (skipBlanks cs)
    .ok (.withNumber c n, ← endOf rest)
  else if "pPdDnNgGhHx=zF".toList.contains c then .ok (.plain c, ← endOf cs)
  else if c = 'v' then .ok (.nothing, cs.dropWhile fun c => c ≠ '\n' ∧ c ≠ ';')
  else refuse s!"unknown command: \x60{c}'" cs

/-- Read the addresses of an instruction, and whether it is for the other lines. -/
def addressesAt (extended : Bool) (cs : List Char) :
    Except Refusal (Option Address × Option Address × Bool × List Char) := do
  let (first, rest) ← addressAt extended cs
  let rest := skipBlanks rest
  let (last, rest) ← match first, rest with
    | some _, ',' :: rest => do
      let (last, rest) ← secondAt extended (skipBlanks rest)
      if last.isNone then refuse "unexpected \x60,'" (rest.drop 1) else .ok (last, rest)
    | none, ',' :: rest => refuse "unexpected \x60,'" rest
    | _, rest => .ok (none, rest)
  let rest := skipBlanks rest
  let isNegated := rest.head? == some '!'
  let rest := if isNegated then skipBlanks (rest.drop 1) else rest
  if isNegated && rest.head? == some '!' then refuse "multiple \x60!'s" (rest.drop 1)
  else
    match first, last with
    | some (.line 0), some (.matching _ _) => .ok (first, last, isNegated, rest)
    | some (.line 0), _ => refuse "invalid usage of line address 0" (rest.drop 1)
    | _, _ => .ok (first, last, isNegated, rest)

/-- Read instructions up to the end, after some that were read, of which blocks are still open. The
number bounds how many there are. -/
def readFrom (extended : Bool) :
    Nat → List Nat → Array Instruction → List Char → Except Refusal (Array Instruction)
  | 0, _, done, _ => .ok done
  | bound + 1, opened, done, cs => do
    let cs := cs.dropWhile fun c => c == ' ' || c == '\t' || c == '\n' || c == ';'
    if cs.isEmpty then
      if opened.isEmpty then .ok done else .error ⟨"unmatched \x60\x7b'", none⟩
    else
      let (first, last, isNegated, rest) ← addressesAt extended cs
      match rest with
      | [] | '\n' :: _ | ';' :: _ => refuse "missing command" rest
      | '#' :: rest =>
        if first.isSome then refuse "comments don't accept any addresses" rest
        else readFrom extended bound opened done (rest.dropWhile (· ≠ '\n'))
      | '\x7d' :: rest =>
        match opened with
        | [] => refuse "unexpected \x60\x7d'" rest
        | n :: opened =>
          if first.isSome then refuse "\x60\x7d' doesn't want any addresses" rest
          else
            let close (i : Instruction) : Instruction := { i with edit := .block done.size }
            readFrom extended bound opened (done.modify n close) (← endOf rest)
      | '\x7b' :: rest =>
        let i : Instruction := { first, last, isNegated, edit := .block 0 }
        readFrom extended bound (done.size :: opened) (done.push i) rest
      | c :: rest =>
        if c = ':' && first.isSome then refuse ": doesn't want any addresses" rest
        else if (c == 'q' || c == 'Q') && last.isSome then
          refuse "command only uses one address" rest
        else
          let (edit, rest) ← editAt extended c rest
          readFrom extended bound opened (done.push { first, last, isNegated, edit }) rest

/-- The instructions of a script. -/
def read (extended : Bool) (cs : List Char) : Except Refusal (Array Instruction) :=
  readFrom extended (cs.length + 1) [] #[] cs

end Script

end Confine.Tool
