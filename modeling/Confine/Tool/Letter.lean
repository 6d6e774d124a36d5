import Confine.Text.Regex
import Confine.Tool.Stream

set_option autoImplicit false

/-! # Tools for characters

`tr` puts characters in place of others, `od` shows bytes by their numbers, `cmp` compares bytes,
`dd` copies blocks of them, and `base64` writes them with sixty-four characters. -/

namespace Confine.Tool

open Confine.System (Work)
open Chore

/-! ## Sets of characters -/

/-- A part of a set of characters. -/
inductive SetPart where
  /-- Some characters in order. -/
  | chars (cs : List Char)
  /-- A class with a name. -/
  | named (name : String) (cs : List Char)
  /-- A character so many times, or as often as is needed. -/
  | fill (c : Char) (count : Nat)

/-- The characters between two, both included. -/
def interval (low high : Char) : List Char :=
  (List.range (high.toNat + 1 - low.toNat)).map fun k => Char.ofNat (low.toNat + k)

/-- The character that a backslash and what follows it stand for. -/
def escapedChar : List Char → Char × List Char
  | [] => ('\\', [])
  | c :: rest =>
    let isOctal (c : Char) : Bool := '0' ≤ c && c ≤ '7'
    if isOctal c then
      let digits := ((c :: rest).take 3).takeWhile isOctal
      let n := digits.foldl (fun n d => n * 8 + (d.toNat - '0'.toNat)) 0
      if n < 256 then (Char.ofNat n, (c :: rest).drop digits.length)
      else (Char.ofNat (n / 8), (c :: rest).drop 2)
    else
      match c with
      | 'a' => ('\x07', rest)
      | 'b' => ('\x08', rest)
      | 'f' => ('\x0c', rest)
      | 'n' => ('\n', rest)
      | 'r' => ('\r', rest)
      | 't' => ('\t', rest)
      | 'v' => ('\x0b', rest)
      | c => (c, rest)

/-- Read a set. The number bounds its parts. -/
def readParts : Nat → List Char → Except String (List SetPart)
  | 0, _ => .ok []
  | _, [] => .ok []
  | bound + 1, '[' :: ':' :: rest =>
    let name := rest.takeWhile (· ≠ ':')
    match rest.drop name.length with
    | ':' :: ']' :: after =>
      let text := String.ofList name
      match Text.Regex.namedSets.lookup text with
      | some ranges => do
        let cs := (List.range 256).map Char.ofNat |>.filter fun c =>
          ranges.any fun r => decide (r.1 ≤ c) && decide (c ≤ r.2)
        .ok (.named text cs :: (← readParts bound after))
      | none => .error s!"invalid character class '{text}'"
    | _ => do .ok (.chars ['['] :: (← readParts bound (':' :: rest)))
  | bound + 1, '[' :: '=' :: c :: '=' :: ']' :: after => do
    .ok (.chars [c] :: (← readParts bound after))
  | bound + 1, c :: rest => do
    let opens := c == '['
    let (first, after) := if c = '\\' then escapedChar rest else (c, rest)
    let fill? : Option (SetPart × List Char) :=
      if !opens then none
      else
        match rest with
        | d :: more =>
          let (d, more) := if d = '\\' then escapedChar more else (d, more)
          match more with
          | '*' :: more =>
            let digits := more.takeWhile Char.isDigit
            match more.drop digits.length with
            | ']' :: after =>
              let base := if digits.head? = some '0' then 8 else 10
              some (.fill d (digits.foldl (fun n c => n * base + (c.toNat - '0'.toNat)) 0), after)
            | _ => none
          | _ => none
        | [] => none
    match fill? with
    | some (part, after) => .ok (part :: (← readParts bound after))
    | none =>
      match after with
      | '-' :: d :: more =>
        let (last, more) := if d = '\\' then escapedChar more else (d, more)
        if last < first then
          .error (s!"range-endpoints of '{first}-{last}' are in reverse collating sequence order")
        else .ok (.chars (interval first last) :: (← readParts bound more))
      | _ => .ok (.chars [first] :: (← readParts bound after))

/-- The characters of a set that is to have some length. -/
def expandedSet (length : Nat) (parts : List SetPart) : List Char :=
  let fixed := parts.foldl (fun n part =>
    match part with
    | .chars cs | .named _ cs => n + cs.length
    | .fill _ count => n + count) 0
  parts.flatMap fun part =>
    match part with
    | .chars cs | .named _ cs => cs
    | .fill c 0 => List.replicate (length - fixed) c
    | .fill c n => List.replicate n c

/-- The tool `tr`. -/
def tr : Utility := toWork do
  let p ← parse [⟨'c', false, "complement", false⟩, ⟨'C', false, "", false⟩,
    ⟨'d', false, "delete", false⟩, ⟨'s', false, "squeeze-repeats", false⟩,
    ⟨'t', false, "truncate-set1", false⟩] true
  let deletes := p.has 'd'
  let squeezes := p.has 's'
  let least := if deletes == squeezes then 2 else 1
  let most := if deletes && !squeezes then 1 else 2
  match p.operands with
  | [] => misuse "missing operand"
  | operands =>
    if operands.length < least then
      let only := operands.headD ""
      let name ← name
      let reason := if squeezes then
          "Two strings must be given when both deleting and squeezing repeats."
        else "Two strings must be given when translating."
      warn (s!"{name}: missing operand after '{only}'\n{reason}\n" ++
        s!"Try '{name} --help' for more information.\n")
      throw 1
    if operands.length > most then
      let extra := (operands[most]?).getD ""
      let name ← name
      let reason := if most = 1 ∧ operands.length = 2 then
          "Only one string may be given when deleting without squeezing repeats.\n"
        else ""
      warn (s!"{name}: extra operand '{extra}'\n{reason}" ++
        s!"Try '{name} --help' for more information.\n")
      throw 1
    let read (text : String) : Chore (List SetPart) := do
      match readParts (text.length + 1) text.toList with
      | .ok parts => pure parts
      | .error reason => fail reason
    let one ← read (operands.headD "")
    let two ← match operands[1]? with
      | some text => do pure (some (← read text))
      | none => pure none
    let first := expandedSet 0 one
    let first := if p.has 'c' || p.has 'C' then
        ((List.range 256).map Char.ofNat).filter fun c => !first.contains c
      else first
    let translates := !deletes && two.isSome
    let second := (two.map (expandedSet first.length)).getD []
    if translates && second.isEmpty && !p.has 't' then
      fail "when not truncating set1, string2 must be non-empty"
    let change : Char → Char :=
      if !translates then fun c => c
      else
        let both := if p.has 't' then first.zip second
          else first.zip (second ++ List.replicate (first.length - second.length)
            (second.getLastD ' '))
        let table := (List.range 256).map fun k =>
          ((both.reverse.lookup (Char.ofNat k)).getD (Char.ofNat k))
        let table := table.toArray
        fun c => (table[c.toNat]?).getD c
    let squeezed := if !squeezes then [] else if two.isSome then second else first
    let rec pass : Nat → Option Char → Chore Unit
      | 0, _ => pure ()
      | steps + 1, last => do
        match ← call (.read 0 Work.readSize) with
        | .error fault => fail s!"read error: {fault.text}"
        | .ok [] => pure ()
        | .ok bytes =>
          let cs := Text.ofBytes bytes
          let kept := if deletes then cs.filter fun c => !first.contains c else cs
          let (out, last) := (kept.map change).foldl (fun (out, last) c =>
            if some c == last && squeezed.contains c then (out, last)
            else (c :: out, some c)) (([] : List Char), last)
          put out.reverse
          flushOrFail
          pass steps last
    pass Work.mostReads none

/-! ## Bytes by their numbers -/

/-- How `od` shows bytes. -/
inductive OdForm where
  /-- As characters. -/
  | characters
  /-- As names of characters. -/
  | names
  /-- As numbers of so many bytes in a base, with a sign or without. -/
  | numbers (bytes base : Nat) (signed : Bool)

/-- How wide a form shows so many bytes. -/
def OdForm.width : OdForm → Nat
  | .characters | .names => 3
  | .numbers bytes 16 _ => 2 * bytes
  | .numbers bytes 8 _ => (8 * bytes + 2) / 3
  | .numbers bytes _ signed =>
    (if signed then 1 else 0) + (match bytes with
      | 1 => 3
      | 2 => 5
      | 4 => 10
      | _ => if signed then 19 else 20)

/-- How many bytes a form shows together. -/
def OdForm.size : OdForm → Nat
  | .numbers bytes _ _ => bytes
  | _ => 1

/-- The names of characters that cannot be seen. -/
def controlNames : List String :=
  ["nul", "soh", "stx", "etx", "eot", "enq", "ack", "bel", "bs", "ht", "nl", "vt", "ff", "cr", "so",
    "si", "dle", "dc1", "dc2", "dc3", "dc4", "nak", "syn", "etb", "can", "em", "sub", "esc", "fs",
    "gs", "rs", "us", "sp"]

/-- What a form shows for some bytes. -/
def OdForm.show (form : OdForm) (bytes : List Nat) : String :=
  let n := bytes.reverse.foldl (fun n b => n * 256 + b) 0
  let padded (digits : List Char) (width : Nat) : String :=
    String.ofList (List.replicate (width - digits.length) '0' ++ digits)
  match form with
  | .characters =>
    let c := Char.ofNat n
    match n with
    | 0 => "\\0"
    | 7 => "\\a"
    | 8 => "\\b"
    | 9 => "\\t"
    | 10 => "\\n"
    | 11 => "\\v"
    | 12 => "\\f"
    | 13 => "\\r"
    | _ => if ' ' ≤ c ∧ c ≤ '~' then c.toString else padded (Nat.toDigits 8 n) 3
  | .names =>
    let n := n % 128
    if n = 127 then "del" else (controlNames[n]?).getD (Char.ofNat n).toString
  | .numbers size 16 _ => padded (Nat.toDigits 16 n) (2 * size)
  | .numbers size 8 _ => padded (Nat.toDigits 8 n) ((8 * size + 2) / 3)
  | .numbers size _ signed =>
    let limit := Nat.pow 256 size
    if signed && limit ≤ 2 * n then "-" ++ toString (limit - n) else toString n

/-- The forms that a text names, and whether the bytes are shown as a text as well. -/
def odForms? : Nat → List Char → Option (List (OdForm × Bool))
  | 0, _ => none
  | _, [] => some []
  | bound + 1, c :: rest => do
    let (form, rest) ← match c with
      | 'c' => some (OdForm.characters, rest)
      | 'a' => some (OdForm.names, rest)
      | 'x' | 'o' | 'u' | 'd' =>
        let digits := rest.takeWhile Char.isDigit
        let after := rest.drop digits.length
        let (size, after) := match natural? digits, after with
          | some n, after => (n, after)
          | none, 'C' :: after => (1, after)
          | none, 'S' :: after => (2, after)
          | none, 'I' :: after => (4, after)
          | none, 'L' :: after => (8, after)
          | none, after => (4, after)
        let base := if c = 'x' then 16 else if c = 'o' then 8 else 10
        if [1, 2, 4, 8].contains size then some (OdForm.numbers size base (c == 'd'), after)
        else none
      | _ => none
    let isSpelt := rest.head? == some 'z'
    some ((form, isSpelt) :: (← odForms? bound (if isSpelt then rest.drop 1 else rest)))

/-- The tool `od`. -/
def od : Utility := toWork do
  let flag (c : Char) : Flag := ⟨c, false, "", false⟩
  let p ← parse ("abcdiloxsv".toList.map flag ++ [⟨'A', true, "address-radix", false⟩,
    ⟨'t', true, "format", false⟩, ⟨'N', true, "read-bytes", false⟩,
    ⟨'j', true, "skip-bytes", false⟩, ⟨'w', true, "width", false⟩])
  let plain (f : OdForm) : Chore (List (OdForm × Bool)) := pure [(f, false)]
  let formOf (o : Char × String) : Chore (List (OdForm × Bool)) := do
    match o.1 with
    | 'a' => plain .names
    | 'b' => plain (.numbers 1 8 false)
    | 'c' => plain .characters
    | 'd' => plain (.numbers 2 10 false)
    | 'i' => plain (.numbers 4 10 true)
    | 'l' => plain (.numbers 8 10 true)
    | 'o' => plain (.numbers 2 8 false)
    | 's' => plain (.numbers 2 10 true)
    | 'x' => plain (.numbers 2 16 false)
    | 't' =>
      match odForms? (o.2.length + 1) o.2.toList with
      | some forms => pure forms
      | none => fail s!"invalid type string '{o.2}'"
    | _ => pure []
  let forms := (← p.chosen.mapM formOf).flatten
  let forms := if forms.isEmpty then [(.numbers 2 8 false, false)] else forms
  let numberOf (c : Char) : Option Nat := (p.last? c).bind scaled?
  let width := max 1 ((numberOf 'w').getD 16)
  let files := if p.operands.isEmpty then ["-"] else p.operands
  let texts ← files.filterMapM fun path => readOrSpoil path
  if texts.isEmpty then throw 1
  let skipped := (numberOf 'j').getD 0
  let all := (texts.flatten.drop skipped).map Char.toNat
  let all := (numberOf 'N').elim all all.take
  let address (n : Nat) : String :=
    let padded (base width : Nat) : String :=
      let digits := Nat.toDigits base n
      String.ofList (List.replicate (width - digits.length) '0' ++ digits)
    match (p.last? 'A').getD "o" with
    | "n" => ""
    | "x" => padded 16 6
    | "d" => padded 10 7
    | _ => padded 8 7
  let countOf (f : OdForm) : Nat := width / f.size
  let room := forms.foldl (fun n f => max n (countOf f.1 * (f.1.width + 1))) 0
  let rec groups : Nat → Nat → List Nat → List (List Nat)
    | 0, _, _ => []
    | _, _, [] => []
    | bound + 1, size, bs => bs.take size :: groups bound size (bs.drop size)
  let rows := groups (all.length + 1) width all
  let lineOf (row : List Nat) (f : OdForm) (isSpelt : Bool) : String :=
    let count := countOf f
    let pad := room - count * f.width
    let parts := groups (row.length + 1) f.size row
    let shown := String.join (((List.range parts.length).zip parts).map fun (k, g) =>
      let left := count - k
      let extra := pad * left / count - pad * (left - 1) / count
      padLeft (f.width + extra) (f.show (g ++ List.replicate (f.size - g.length) 0)))
    let spelt (n : Nat) : Char := if 32 ≤ n ∧ n < 127 then Char.ofNat n else '.'
    if !isSpelt then shown
    else
      let blank := String.ofList (List.replicate (room - shown.length) ' ')
      shown ++ blank ++ "  >" ++ String.ofList (row.map spelt) ++ "<"
  let _ ← rows.foldlM (fun (n, before, starred) row => do
    if !p.has 'v' && row.length == width && before == some row then
      if !starred then say "*"
      pure (n + row.length, before, true)
    else
      ((List.range forms.length).zip forms).forM fun (k, f, isSpelt) =>
        let start := if k = 0 then address n
          else String.ofList (List.replicate (address n).length ' ')
        say (start ++ lineOf row f isSpelt)
      pure (n + row.length, some row, false)) (skipped, none, false)
  let finish := address (skipped + all.length)
  if !finish.isEmpty then say finish

/-! ## Comparing -/

/-- The tool `cmp`. -/
def cmp : Utility := toWork do
  let p ← parse [⟨'b', false, "print-bytes", false⟩, ⟨'l', false, "verbose", false⟩,
    ⟨'s', false, "quiet", false⟩, ⟨'s', false, "silent", false⟩, ⟨'n', true, "bytes", false⟩,
    ⟨'i', true, "ignore-initial", false⟩] false 2
  match p.operands with
  | [] =>
    let name ← name
    warn (s!"{name}: missing operand after '{name}'\n" ++
      s!"{name}: Try '{name} --help' for more information.\n")
    throw 2
  | a :: rest =>
    let b := rest.headD "-"
    let readFile (path : String) : Chore (List Char) := do
      match ← readFrom path with
      | .ok (octets, none) => pure octets
      | .ok (_, some fault) => fail s!"{path}: {fault.text}" 2
      | .error fault =>
        if p.has 's' then throw 2 else fail s!"{path}: {fault.text}" 2
    let one ← readFile a
    let two ← readFile b
    let limit := (p.last? 'n').bind scaled?
    let (one, two) := (limit.elim one one.take, limit.elim two two.take)
    let pairs := one.zip two
    let differing := ((List.range pairs.length).zip pairs).filter fun x => x.2.1 ≠ x.2.2
    let shorter := if one.length < two.length then some a
      else if two.length < one.length then some b else none
    let linesBefore (n : Nat) : Nat := (one.take n).count '\n' + 1
    if p.has 'l' then
      let width := (toString pairs.length).length
      differing.forM fun (n, x, y) =>
        let octal (c : Char) : String := padLeft 3 (String.ofList (Nat.toDigits 8 c.toNat))
        say (padLeft width (toString (n + 1)) ++ " " ++ octal x ++ " " ++ octal y)
      if !differing.isEmpty then leave 1
    else
      match differing with
      | (n, _, _) :: _ =>
        if !p.has 's' then say s!"{a} {b} differ: char {n + 1}, line {linesBefore n}"
        throw 1
      | [] => pure ()
    match shorter with
    | none => pure ()
    | some path =>
      let n := pairs.length
      if !p.has 's' then
        if n = 0 then complain s!"EOF on {path} which is empty"
        else if p.has 'l' then complain s!"EOF on {path} after byte {n}"
        else
          let lines := linesBefore n
          let inLine := (one.take n).getLast? != some '\n'
          complain (s!"EOF on {path} after byte {n}, " ++
            if inLine then s!"in line {lines}" else s!"line {lines - 1}")
      leave 1

/-! ## Blocks -/

/-- The tool `dd`. -/
def dd : Utility := toWork do
  let args := (← get).setting.arguments
  let known := ["if", "of", "bs", "ibs", "obs", "count", "skip", "seek", "conv", "status", "iflag",
    "oflag", "cbs"]
  let settings ← args.mapM fun a => do
    let key := String.ofList (a.toList.takeWhile (· ≠ '='))
    if !a.toList.contains '=' || !known.contains key then misuse s!"unrecognized operand '{a}'"
    pure (key, String.ofList (a.toList.drop (key.length + 1)))
  let last (key : String) : Option String := settings.reverse.lookup key
  let numberOf (key : String) : Chore (Option Nat) := do
    match last key with
    | none => pure none
    | some text =>
      match scaled? text with
      | some n => pure (some n)
      | none => fail s!"invalid number: '{text}'"
  let size := (← numberOf "bs") <|> (← numberOf "ibs")
  let size := size.getD 512
  if size = 0 then fail "invalid number: '0'"
  let count ← numberOf "count"
  let skip := (← numberOf "skip").getD 0
  let seek := (← numberOf "seek").getD 0
  let conversions := (((last "conv").getD "").toList.splitOn ',').map String.ofList
  let read (octets : Except Fault (List Char × Option Fault)) (path : String) :
      Chore (List Char) := do
    match octets with
    | .ok (octets, none) => pure octets
    | .ok (_, some fault) => fail s!"error reading '{path}': {fault.text}"
    | .error fault => fail s!"failed to open '{path}': {fault.text}"
  let enough := count.map fun n => (skip + n) * size
  let octets ← match last "if" with
    | some path =>
      match ← openAt path .forReading with
      | .error fault => fail s!"failed to open '{path}': {fault.text}"
      | .ok n => do
        let (cs, fault) ← readUntil n (fun h => enough.any (· ≤ h.length)) Work.mostReads {}
        close n
        read (.ok (cs, fault)) path
    | none => do
      let (cs, fault) ← readUntil 0 (fun h => enough.any (· ≤ h.length)) Work.mostReads {}
      read (.ok (cs, fault)) "standard input"
  let kept := octets.drop (skip * size)
  let kept := count.elim kept fun n => kept.take (n * size)
  let full := kept.length / size
  let part := if kept.length % size = 0 then 0 else 1
  let changed := if conversions.contains "ucase" then kept.map Char.toUpper
    else if conversions.contains "lcase" then kept.map Char.toLower else kept
  match last "of" with
  | none => put changed
  | some path =>
    let before ← if conversions.contains "notrunc" || 0 < seek then do
        match ← readFrom path with
        | .ok (octets, _) => pure octets
        | .error _ => pure []
      else pure []
    let position := seek * size
    let start := before.take position ++ List.replicate (position - before.length) '\x00'
    let after := if conversions.contains "notrunc" then before.drop (position + changed.length)
      else []
    match ← writeTo path (start ++ changed ++ after) with
    | .ok () => pure ()
    | .error fault => fail s!"failed to open '{path}': {fault.text}"
  flushOrFail
  let level := (last "status").getD ""
  if level ≠ "none" then
    warn s!"{full}+{part} records in\n{full}+{part} records out\n"
    if level ≠ "noxfer" then
      let n := kept.length
      let unit := if n = 1 then "byte" else "bytes"
      warn s!"{n} {unit} copied, 0.0001 s, 0.0 kB/s\n"

/-! ## Sixty-four characters -/

/-- The characters that stand for the numbers below sixty-four. -/
def sixtyFour : List Char :=
  interval 'A' 'Z' ++ interval 'a' 'z' ++ interval '0' '9' ++ ['+', '/']

/-- Bytes in writing, three at a time. -/
def encoded (digit : Nat → Char) : List Nat → List Char
  | [] => []
  | [a] => [digit (a / 4), digit (a % 4 * 16), '=', '=']
  | [a, b] => [digit (a / 4), digit (a % 4 * 16 + b / 16), digit (b % 16 * 4), '=']
  | a :: b :: c :: rest =>
    digit (a / 4) :: digit (a % 4 * 16 + b / 16) :: digit (b % 16 * 4 + c / 64) ::
      digit (c % 64) :: encoded digit rest

/-- The bytes that characters write, four at a time, and whether all could be read. -/
def decoded : List (Option Nat) → List Nat × Bool
  | [] => ([], true)
  | some a :: some b :: none :: none :: rest =>
    match decoded rest with
    | (more, good) => ((a * 4 + b / 16) :: more, good)
  | some a :: some b :: some c :: none :: rest =>
    match decoded rest with
    | (more, good) => ((a * 4 + b / 16) :: (b % 16 * 16 + c / 4) :: more, good)
  | some a :: some b :: some c :: some d :: rest =>
    match decoded rest with
    | (more, good) => ((a * 4 + b / 16) :: (b % 16 * 16 + c / 4) :: (c % 4 * 64 + d) :: more, good)
  | some a :: some b :: some c :: [] => ([a * 4 + b / 16, b % 16 * 16 + c / 4], false)
  | some a :: some b :: [] => ([a * 4 + b / 16], false)
  | _ => ([], false)

/-- The tool `base64`. -/
def base64 : Utility := toWork do
  let p ← parse [⟨'d', false, "decode", false⟩, ⟨'i', false, "ignore-garbage", false⟩,
    ⟨'w', true, "wrap", false⟩]
  let path := p.operands.headD "-"
  match p.operands[1]? with
  | some extra => misuse s!"extra operand '{extra}'"
  | none => pure ()
  let octets ← match ← readFrom path with
    | .ok (octets, none) => pure octets
    | .ok (_, some fault) => fail s!"read error: {fault.text}"
    | .error fault => fail s!"{path}: {fault.text}"
  if p.has 'd' then
    let cs := octets.filter (· ≠ '\n')
    let cs := if p.has 'i' then cs.filter fun c => sixtyFour.contains c || c == '=' else cs
    let values := cs.map fun c => sixtyFour.findIdx? (· == c)
    let known := (cs.takeWhile fun c => sixtyFour.contains c || c == '=').length
    let (bytes, good) := decoded (values.take known)
    put (bytes.map Char.ofNat)
    if !good || known < cs.length then fail "invalid input"
  else
    let table := sixtyFour.toArray
    let text := encoded (fun n => (table[n]?).getD '=') (octets.map Char.toNat)
    let width := ((p.last? 'w').bind fun w => natural? w.toList).getD 76
    if width = 0 then put text
    else
      let rec rows : Nat → List Char → List Char
        | 0, _ => []
        | _, [] => []
        | bound + 1, cs => cs.take width ++ '\n' :: rows bound (cs.drop width)
      put (rows (text.length + 1) text)

end Confine.Tool
