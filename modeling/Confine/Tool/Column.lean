import Confine.Tool.Feed

set_option autoImplicit false

/-! # Tools for parts of lines

`cut` takes parts of lines, `paste` puts lines side by side, and `nl`, `fold`, `rev` and `expand`
change how lines look. -/

namespace Confine.Tool

open Chore

/-! ## Parts -/

/-- Read a list of numbers and intervals: pairs of the first and the last number, where no last
number means all that follow. -/
def intervals? (text : String) : Except String (List (Nat × Option Nat)) :=
  let one (cs : List Char) : Except String (Nat × Option Nat) :=
    let low := cs.takeWhile (· ≠ '-')
    let hasDash := cs.contains '-'
    let high := cs.drop (low.length + 1)
    if cs = ['-'] then .error "invalid range with no endpoint: -"
    else
      match natural? low, natural? high with
      | some a, _ =>
        if a = 0 then .error "numbered from 1"
        else if !hasDash then .ok (a, some a)
        else if high.isEmpty then .ok (a, none)
        else
          match natural? high with
          | some b => if b < a then .error "invalid decreasing range" else .ok (a, some b)
          | none => .error "invalid"
      | none, some b =>
        if low.isEmpty && hasDash then
          if b = 0 then .error "invalid decreasing range" else .ok (1, some b)
        else .error "invalid"
      | none, none => .error "invalid"
  let pieces := (text.toList.splitOn ',').flatMap (·.splitOn ' ')
  pieces.mapM one

/-- Whether a number is in one of some intervals. -/
def isChosen (list : List (Nat × Option Nat)) (n : Nat) : Bool :=
  list.any fun (a, b) => decide (a ≤ n) && b.all fun b => decide (n ≤ b)

/-- The tool `cut`. -/
def cut : Utility := toWork do
  let flag (c : Char) (name : String) : Flag := ⟨c, false, name, false⟩
  let p ← parse [⟨'b', true, "bytes", false⟩, ⟨'c', true, "characters", false⟩,
    ⟨'f', true, "fields", false⟩, ⟨'d', true, "delimiter", false⟩, flag 's' "only-delimited",
    flag 'n' "", flag 'z' "zero-terminated", ⟨'o', true, "output-delimiter", false⟩,
    flag 'C' "complement"]
  let modes := p.chosen.filter fun o => ['b', 'c', 'f'].contains o.1
  match modes with
  | [] => misuse "you must specify a list of bytes, characters, or fields"
  | _ :: _ :: _ => misuse "only one list may be specified"
  | [(mode, text)] =>
    let byField := mode == 'f'
    let delimiter ← match p.last? 'd' with
      | none => pure '\t'
      | some d =>
        if !byField then misuse "an input delimiter may be specified only when operating on fields"
        else
          match d.toList with
          | [c] => pure c
          | [] => pure '\x00'
          | _ => misuse "the delimiter must be a single character"
    if p.has 's' && !byField then
      misuse "suppressing non-delimited lines makes sense\n\tonly when operating on fields"
    let list ← match intervals? text with
      | .ok list => pure list
      | .error "invalid" =>
        if byField then misuse s!"invalid field value '{text}'"
        else misuse s!"invalid byte/character position '{text}'"
      | .error "numbered from 1" =>
        if byField then misuse "fields are numbered from 1"
        else misuse "byte/character positions are numbered from 1"
      | .error reason => misuse reason
    let isWanted (n : Nat) : Bool := isChosen list n != p.has 'C'
    let joint := (p.last? 'o').elim (if byField then [delimiter] else []) String.toList
    let numbered {α : Type} (xs : List α) : List (Nat × α) :=
      (List.range xs.length).zip xs |>.map fun (n, x) => (n + 1, x)
    let part (line : List Char) : Option (List Char) :=
      if byField then
        let fields := line.splitOn delimiter
        if fields.length < 2 then (if p.has 's' then none else some line)
        else
          some (joint.intercalate
            (((numbered fields).filter fun f => isWanted f.1).map Prod.snd))
      else if joint.isEmpty then
        some (((numbered line).filter fun f => isWanted f.1).map Prod.snd)
      else
        let kept := (numbered line).filter fun f => isWanted f.1
        let starts (n : Nat) : Bool := list.any fun (a, _) => a == n
        some (kept.foldl (fun text f =>
          if !text.isEmpty && (starts f.1 || !isWanted (f.1 - 1)) then text ++ joint ++ [f.2]
          else text ++ [f.2]) [])
    let ending := if p.has 'z' then '\x00' else '\n'
    let shown (line : List Char) : Chore Unit :=
      match part (withoutEnd line ending).1 with
      | some text => put (text ++ [ending])
      | none => pure ()
    forLines p.operands shown Feed.usualComplaint ending

/-! ## Side by side -/

/-- The delimiters that a text names. -/
def delimitersOf : List Char → List (List Char)
  | [] => []
  | '\\' :: 'n' :: rest => ['\n'] :: delimitersOf rest
  | '\\' :: 't' :: rest => ['\t'] :: delimitersOf rest
  | '\\' :: '0' :: rest => [] :: delimitersOf rest
  | '\\' :: '\\' :: rest => ['\\'] :: delimitersOf rest
  | c :: rest => [c] :: delimitersOf rest

/-- Pieces with delimiters between them, which are used in turn. -/
def joined (delimiters : List (List Char)) : Nat → List (List Char) → List Char
  | _, [] => []
  | _, [last] => last
  | n, piece :: rest =>
    let delimiter := (delimiters[n % delimiters.length]?).getD []
    piece ++ delimiter ++ joined delimiters (n + 1) rest

/-- The tool `paste`. -/
def paste : Utility := toWork do
  let p ← parse [⟨'d', true, "delimiters", false⟩, ⟨'s', false, "serial", false⟩,
    ⟨'z', false, "zero-terminated", false⟩]
  let delimiters := match delimitersOf ((p.last? 'd').getD "\t").toList with
    | [] => [[]]
    | ds => ds
  let files := if p.operands.isEmpty then ["-"] else p.operands
  let texts ← files.foldlM (fun (texts : List (String × List (List Char))) path => do
    if path = "-" && texts.any fun t => t.1 == "-" then pure (texts ++ [(path, [])])
    else
      match ← readFrom path with
      | .ok (octets, _) => pure (texts ++ [(path, bareLines octets)])
      | .error fault => fail s!"{path}: {fault.text}") []
  let inputs := texts.filter fun t => t.1 == "-"
  let shares := inputs.length
  let spread (k : Nat) (lines : List (List Char)) : List (List Char) :=
    ((List.range lines.length).zip lines).filterMap fun (n, line) =>
      if n % shares = k then some line else none
  let standard := ((inputs.head?).map Prod.snd).getD []
  let columns := (texts.foldl (fun (done, k) (path, lines) =>
    if path == "-" && 1 < shares then (done ++ [spread k standard], k + 1)
    else (done ++ [lines], k)) (([] : List (List (List Char))), 0)).1
  if p.has 's' then
    columns.forM fun lines => put (joined delimiters 0 lines ++ ['\n'])
  else
    let height := columns.foldl (fun n lines => max n lines.length) 0
    (List.range height).forM fun k =>
      put (joined delimiters 0 (columns.map fun lines => (lines[k]?).getD []) ++ ['\n'])

/-! ## The look of lines -/

/-- The tool `nl`. -/
def nl : Utility := toWork do
  let p ← parse [⟨'b', true, "body-numbering", false⟩, ⟨'w', true, "number-width", false⟩,
    ⟨'s', true, "number-separator", false⟩, ⟨'v', true, "starting-line-number", false⟩,
    ⟨'i', true, "line-increment", false⟩, ⟨'n', true, "number-format", false⟩]
  let numberOf (c : Char) (usual : Nat) : Nat :=
    ((p.last? c).bind fun text => natural? text.toList).getD usual
  let width := numberOf 'w' 6
  let separator := (p.last? 's').getD "\t"
  let style := (p.last? 'b').getD "t"
  let form := (p.last? 'n').getD "rn"
  let written (n : Nat) : String :=
    let digits := toString n
    if form = "ln" then digits ++ String.ofList (List.replicate (width - digits.length) ' ')
    else if form = "rz" then String.ofList (List.replicate (width - digits.length) '0') ++ digits
    else padLeft width digits
  let blank := String.ofList (List.replicate (width + separator.length) ' ')
  let _ ← foldLines p.operands (numberOf 'v' 1) fun n line => do
    let line := (withoutEnd line).1
    let counts := style == "a" || (style == "t" && !line.isEmpty)
    if counts then
      put ((written n ++ separator).toList ++ line ++ ['\n'])
      pure (n + numberOf 'i' 1)
    else
      put (blank.toList ++ line ++ ['\n'])
      pure n

/-- The column after a character. -/
def columnAfter (column : Nat) (c : Char) : Nat :=
  if c = '\t' then (column / 8 + 1) * 8
  else if c = '\x08' then column - 1
  else if c = '\r' then 0
  else column + 1

/-- A line in pieces that are no wider than a width. The number bounds how many there are. -/
def folded (width : Nat) (byBytes atBlanks : Bool) : Nat → List Char → List (List Char)
  | 0, cs => [cs]
  | bound + 1, cs =>
    let fits := (cs.foldl (fun (n, column, fits) c =>
      let next := if byBytes then column + 1 else columnAfter column c
      if fits && next ≤ width then (n + 1, next, true) else (n, column, false)) (0, 0, true)).1
    let fits := max fits 1
    if cs.length ≤ fits then [cs]
    else
      let line := cs.take fits
      let tail := (line.reverse.takeWhile (· ≠ ' ')).length
      let cut := if atBlanks && tail < line.length then line.length - tail else line.length
      cs.take cut :: folded width byBytes atBlanks bound (cs.drop cut)

/-- The tool `fold`. -/
def fold : Utility := toWork do
  let args := (← get).setting.arguments
  let old (a : String) : String :=
    match a.toList with
    | '-' :: c :: cs => if (c :: cs).all Char.isDigit then "-w" ++ String.ofList (c :: cs) else a
    | _ => a
  modify fun b => { b with setting := { b.setting with arguments := args.map old } }
  let p ← parse [⟨'b', false, "bytes", false⟩, ⟨'s', false, "spaces", false⟩,
    ⟨'w', true, "width", false⟩]
  let width ← match p.last? 'w' with
    | none => pure 80
    | some text =>
      match natural? text.toList with
      | some (n + 1) => pure (n + 1)
      | _ => fail s!"invalid number of columns: '{text}'"
  forLines p.operands fun line => do
    let (bare, ends) := withoutEnd line
    let pieces := folded width (p.has 'b') (p.has 's') (bare.length + 1) bare
    put (['\n'].intercalate pieces ++ if ends then ['\n'] else [])

/-- The tool `rev`. -/
def rev : Utility := toWork do
  let p ← parse []
  let turned (line : List Char) : Chore Unit :=
    match withoutEnd line with
    | (bare, true) => put (bare.reverse ++ ['\n'])
    | (bare, false) => put bare.reverse
  forLines p.operands turned fun path fault => spoil s!"cannot open {path}: {fault.text}"

/-- The tool `expand`. -/
def expand : Utility := toWork do
  let p ← parse [⟨'t', true, "tabs", false⟩, ⟨'i', false, "initial", false⟩]
  let stop := max 1 (((p.last? 't').bind fun text => natural? text.toList).getD 8)
  forLines p.operands fun line =>
    put ((line.foldl (fun (done, column, isStart) c =>
      let isBlank := c == ' ' || c == '\t'
      if c = '\t' && (isStart || !p.has 'i') then
        let missing := stop - column % stop
        (List.replicate missing ' ' ++ done, column + missing, isStart)
      else (c :: done, column + 1, isStart && isBlank)) (([] : List Char), 0, true)).1.reverse)

end Confine.Tool
