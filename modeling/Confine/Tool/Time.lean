import Confine.Text.Calendar
import Confine.Tool.File

set_option autoImplicit false

/-! # Tools for times

`date` shows a moment, `touch` says when files were changed, and `stat` tells what is known about
them. A system does not know when it was started, and takes it to be the start of a year. -/

namespace Confine.Tool

open Confine.System (Status)
open Confine.Text (Day Moment)
open Chore

/-- The moment at which a system is taken to start, in seconds from the start of 1970 on. -/
def startSeconds : Int := 1767225600

/-! ## Writing moments -/

/-- A number brought to a width by characters in front. -/
def padded (pad : Option Char) (width : Nat) (n : Int) : List Char :=
  let digits := Nat.toDigits 10 n.natAbs
  let sign := if n < 0 then ['-'] else []
  match pad with
  | none => sign ++ digits
  | some c => sign ++ List.replicate (width - digits.length) c ++ digits

/-- The number of the week in which a day is, and its year, where a week belongs to the year in
which most of it is. -/
def weekOf (d : Day) : Int × Nat :=
  let weekday := (d.weekday + 6) % 7
  let thursday := Day.ofNumber (d.number - weekday + 3)
  (thursday.year, (thursday.ofYear - 1) / 7 + 1)

mutual

/-- What one letter of a format stands for. The first number bounds how deep letters stand for
others. -/
def fieldOf (bound : Nat) (m : Moment) (flag : Option Char) (width : Nat) (c : Char) :
    List Char :=
  let d := m.date
  let number (usual : Char) (least : Nat) (n : Int) : List Char :=
    let pad := match flag with
      | some '-' => none
      | some '_' => some ' '
      | some '0' => some '0'
      | _ => some usual
    padded pad (max width least) n
  let text (s : String) : List Char :=
    let cs := if flag = some '^' then s.toList.map Char.toUpper else s.toList
    List.replicate (width - cs.length) ' ' ++ cs
  let name (names : List String) (n : Nat) : String := (names[n]?).getD ""
  let short (s : String) : String := String.ofList (s.toList.take 3)
  let hour12 := if m.hour % 12 = 0 then 12 else m.hour % 12
  let inner (format : String) : List Char :=
    match bound with
    | 0 => []
    | bound + 1 => momentText bound m (format.length + 1) format.toList
  match c with
  | 'Y' => number '0' 4 d.year
  | 'C' => number '0' 2 (d.year / 100)
  | 'y' => number '0' 2 (d.year % 100)
  | 'm' => number '0' 2 d.month
  | 'd' => number '0' 2 d.day
  | 'e' => number ' ' 2 d.day
  | 'H' => number '0' 2 m.hour
  | 'k' => number ' ' 2 m.hour
  | 'I' => number '0' 2 hour12
  | 'l' => number ' ' 2 hour12
  | 'M' => number '0' 2 m.minute
  | 'S' => number '0' 2 m.second
  | 'N' => "000000000".toList
  | 's' => number '0' 1 m.seconds
  | 'j' => number '0' 3 d.ofYear
  | 'u' => number '0' 1 (if d.weekday = 0 then 7 else d.weekday)
  | 'w' => number '0' 1 d.weekday
  | 'U' => number '0' 2 ((d.ofYear + 6 - d.weekday) / 7)
  | 'W' => number '0' 2 ((d.ofYear + 6 - (d.weekday + 6) % 7) / 7)
  | 'V' => number '0' 2 (weekOf d).2
  | 'G' => number '0' 4 (weekOf d).1
  | 'g' => number '0' 2 ((weekOf d).1 % 100)
  | 'a' => text (short (name Text.weekdayNames d.weekday))
  | 'A' => text (name Text.weekdayNames d.weekday)
  | 'b' | 'h' => text (short (name Text.monthNames (d.month - 1)))
  | 'B' => text (name Text.monthNames (d.month - 1))
  | 'p' => text (if m.hour < 12 then "AM" else "PM")
  | 'P' => text (if m.hour < 12 then "am" else "pm")
  | 'Z' => text "UTC"
  | 'z' => text "+0000"
  | 'n' => ['\n']
  | 't' => ['\t']
  | '%' => ['%']
  | 'F' => inner "%Y-%m-%d"
  | 'T' | 'X' => inner "%H:%M:%S"
  | 'D' | 'x' => inner "%m/%d/%y"
  | 'R' => inner "%H:%M"
  | 'r' => inner "%I:%M:%S %p"
  | 'c' => inner "%a %b %e %H:%M:%S %Y"
  | c => ['%'] ++ flag.toList ++ [c]
termination_by (bound, 0, 0)

/-- A moment in a format. The second number bounds the characters. -/
def momentText (bound : Nat) (m : Moment) : Nat → List Char → List Char
  | 0, _ | _, [] => []
  | steps + 1, '%' :: rest =>
    let isFlag (c : Char) : Bool := ['-', '_', '0', '^', '#'].contains c
    let flag := (rest.takeWhile isFlag).getLast?
    let rest := rest.dropWhile isFlag
    let digits := rest.takeWhile Char.isDigit
    match rest.drop digits.length with
    | [] => ['%']
    | ':' :: 'z' :: rest => "+00:00".toList ++ momentText bound m steps rest
    | c :: rest =>
      fieldOf bound m flag ((natural? digits).getD 0) c ++ momentText bound m steps rest
  | steps + 1, c :: rest => c :: momentText bound m steps rest
termination_by steps => (bound, 1, steps)

end

/-- A moment in a format. -/
def Moment.written (m : Moment) (format : String) : List Char :=
  momentText 3 m (format.length + 1) format.toList

/-! ## Reading moments -/

/-- What a text says about a moment. -/
structure Wish where
  /-- The day. -/
  day : Option Day := none
  /-- The second of the day. -/
  time : Option Nat := none
  /-- Months to be added. -/
  months : Int := 0
  /-- Seconds to be added. -/
  seconds : Int := 0
  /-- The moment itself, in seconds. -/
  exact : Option Int := none

/-- The seconds, or the months, in a unit of time. -/
def unitOfTime? (word : String) : Option (Int ⊕ Int) :=
  let word := if word.length > 3 && word.endsWith "s" then (word.dropEnd 1).toString else word
  match word with
  | "sec" | "second" => some (.inl 1)
  | "min" | "minute" => some (.inl 60)
  | "hour" => some (.inl 3600)
  | "day" => some (.inl 86400)
  | "week" => some (.inl 604800)
  | "fortnight" => some (.inl 1209600)
  | "month" => some (.inr 1)
  | "year" => some (.inr 12)
  | _ => none

/-- Read a time of day: hours, minutes and perhaps seconds. -/
def clockTime? (word : String) : Option Nat :=
  let word := if word.endsWith "Z" then (word.dropEnd 1).toString else word
  let parts := (word.toList.splitOn ':').map fun cs => natural? (cs.takeWhile (· ≠ '.'))
  match parts with
  | [some h, some m] => if h < 24 ∧ m < 60 then some (h * 3600 + m * 60) else none
  | [some h, some m, some s] =>
    if h < 24 ∧ m < 60 ∧ s < 61 then some (h * 3600 + m * 60 + s) else none
  | _ => none

/-- Read a day in digits. -/
def dayOf? (word : String) : Option Day :=
  let cs := word.toList
  let found := match (cs.splitOn '-').map natural? with
    | [some y, some m, some d] => some (⟨(y : Int), m, d⟩ : Day)
    | _ =>
      match (cs.splitOn '/').map natural? with
      | [some m, some d, some y] => some ⟨(y : Int), m, d⟩
      | [some m, some d] => some ⟨2026, m, d⟩
      | _ =>
        if cs.length = 8 then
          match natural? (cs.take 4), natural? ((cs.take 6).drop 4), natural? (cs.drop 6) with
          | some y, some m, some d => some ⟨(y : Int), m, d⟩
          | _, _, _ => none
        else none
  found.filter Day.isValid

/-- Read what a text says about a moment, word by word. The number bounds the words. -/
def wishOf? (now : Moment) : Nat → List String → Wish → Option Wish
  | 0, _, _ => none
  | _, [], w => some w
  | bound + 1, word :: rest, w =>
    let add (count : Int) (unit : Int ⊕ Int) (rest : List String) : Option Wish :=
      let (count, rest) := match rest with
        | "ago" :: rest => (-count, rest)
        | rest => (count, rest)
      wishOf? now bound rest (match unit with
        | .inl s => { w with seconds := w.seconds + count * s }
        | .inr m => { w with months := w.months + count * m })
    let shifted (days : Int) : Option Wish :=
      wishOf? now bound rest { w with seconds := w.seconds + days * 86400 }
    let number? : Option Int := match word.toList with
      | '+' :: cs => (natural? cs).map Int.ofNat
      | '-' :: cs => (natural? cs).map fun n => -(n : Int)
      | cs => (natural? cs).map Int.ofNat
    match word with
    | "now" | "today" | "utc" | "gmt" | "z" => wishOf? now bound rest w
    | "tomorrow" => shifted 1
    | "yesterday" => shifted (-1)
    | "midnight" => wishOf? now bound rest { w with time := some 0 }
    | "noon" => wishOf? now bound rest { w with time := some 43200 }
    | _ =>
      match unitOfTime? word, number?, rest with
      | some unit, _, _ => add 1 unit rest
      | none, some n, unit :: more =>
        match unitOfTime? unit with
        | some unit => add n unit more
        | none => none
      | none, _, _ =>
        match word, rest with
        | "next", unit :: more => (unitOfTime? unit).bind fun unit => add 1 unit more
        | "last", unit :: more => (unitOfTime? unit).bind fun unit => add (-1) unit more
        | _, _ =>
          match dayOf? word with
          | some d => wishOf? now bound rest { w with day := some d }
          | none =>
            match clockTime? word with
            | some t => wishOf? now bound rest { w with time := some t }
            | none =>
              match word.toList.splitOn 't' with
              | [a, b] =>
                match dayOf? (String.ofList a), clockTime? (String.ofList b).toUpper with
                | some d, some t =>
                  wishOf? now bound rest { w with day := some d, time := some t }
                | _, _ => none
              | _ => none

/-- The seconds that a text stands for. -/
def secondsOf? (now : Int) (text : String) : Option Int :=
  match text.toList with
  | '@' :: cs =>
    let (negative, digits) := match cs with
      | '-' :: rest => (true, rest)
      | _ => (false, cs)
    (natural? (digits.takeWhile (· ≠ '.'))).map fun n => if negative then -(n : Int) else n
  | cs => do
    let m := Moment.ofSeconds now
    let words := (((cs.map Char.toLower).splitOn ' ').filter (!·.isEmpty)).map String.ofList
    let w ← wishOf? m (words.length + 1) words {}
    let day := w.day.getD m.date
    let isPlain := w.day.isNone && w.time.isNone && w.months = 0 && w.seconds = 0
    let time : Nat := w.time.getD
      (if w.day.isSome || (isPlain && words.isEmpty) then 0
        else m.hour * 3600 + m.minute * 60 + m.second)
    let months := day.year * 12 + (day.month - 1 : Nat) + w.months
    let start : Day := { year := months / 12, month := (months % 12).toNat + 1, day := 1 }
    some ((start.number + day.day - 1) * 86400 + time + w.seconds)

/-! ## The tools -/

/-- The seconds of now. -/
def secondsNow : Chore Int := do
  return startSeconds + (((← call .clock) / 1000 : Nat) : Int)

/-- The tool `date`. -/
def date : Utility := toWork do
  let p ← parse [⟨'u', false, "utc", false⟩, ⟨'u', false, "universal", false⟩,
    ⟨'d', true, "date", false⟩, ⟨'r', true, "reference", false⟩, ⟨'R', false, "rfc-email", false⟩,
    ⟨'I', false, "iso-8601", true⟩, ⟨'s', true, "set", false⟩, ⟨'3', true, "rfc-3339", false⟩]
  let now ← secondsNow
  let format ← match p.operands with
    | [] => pure none
    | [a] =>
      if a.startsWith "+" then pure (some (a.drop 1).toString)
      else fail s!"invalid date '{a}'"
    | _ :: b :: _ => misuse s!"extra operand '{b}'"
  let seconds ← match p.last? 'd', p.last? 'r' with
    | some text, _ =>
      match secondsOf? now text with
      | some n => pure n
      | none => fail s!"invalid date '{text}'"
    | none, some path =>
      match ← look path with
      | .ok s => pure (startSeconds + s.changed / 1000)
      | .error fault => fail s!"{path}: {fault.text}"
    | none, none => pure now
  let precise (text : String) (joint : String) : String :=
    match text with
    | "h" | "hours" => "%Y-%m-%d" ++ joint ++ "%H%:z"
    | "m" | "minutes" => "%Y-%m-%d" ++ joint ++ "%H:%M%:z"
    | "s" | "seconds" => "%Y-%m-%d" ++ joint ++ "%H:%M:%S%:z"
    | "ns" => "%Y-%m-%d" ++ joint ++ "%H:%M:%S,%N%:z"
    | _ => "%Y-%m-%d"
  let usual := match p.lastOf? ['R', 'I', '3'] with
    | some 'R' => "%a, %d %b %Y %H:%M:%S %z"
    | some 'I' => precise ((p.last? 'I').getD "") "T"
    | some '3' => precise ((p.last? '3').getD "") " "
    | _ => "%a %b %e %H:%M:%S %Z %Y"
  put (Moment.written (Moment.ofSeconds seconds) (format.getD usual) ++ ['\n'])

/-- The seconds that digits stand for: a month, a day, an hour and a minute, with the year in front
or without it, and perhaps with seconds after a point. -/
def stampOf? (text : String) : Option Int :=
  let cs := text.toList
  let digits := cs.takeWhile (· ≠ '.')
  let after := cs.drop (digits.length + 1)
  let two (k : Nat) : Option Nat := natural? ((digits.drop k).take 2)
  let start := digits.length - 8
  let year? : Option Int := match start with
    | 0 => some 2026
    | 2 => (two 0).map fun n => if n < 69 then 2000 + n else 1900 + n
    | 4 => (natural? (digits.take 4)).map Int.ofNat
    | _ => none
  do
    let year ← year?
    let month ← two start
    let day ← two (start + 2)
    let hour ← two (start + 4)
    let minute ← two (start + 6)
    let second ← if after.isEmpty then some 0 else natural? after
    let m : Moment := { date := { year, month, day }, hour, minute, second }
    if m.date.isValid ∧ hour < 24 ∧ minute < 60 ∧ digits.length ≥ 8 then some m.seconds else none

/-- The tool `touch`. -/
def touch : Utility := toWork do
  let p ← parse [⟨'c', false, "no-create", false⟩, ⟨'a', false, "", false⟩,
    ⟨'m', false, "", false⟩, ⟨'d', true, "date", false⟩, ⟨'t', true, "", false⟩,
    ⟨'r', true, "reference", false⟩, ⟨'f', false, "", false⟩, ⟨'h', false, "no-dereference", false⟩]
  let now : Int := ((← call .clock) : Nat)
  let fromStart (seconds : Int) : Int := (seconds - startSeconds) * 1000
  let time ← match p.lastOf? ['d', 't', 'r'] with
    | some 'd' =>
      let text := (p.last? 'd').getD ""
      match secondsOf? (← secondsNow) text with
      | some n => pure (fromStart n)
      | none => fail s!"invalid date format '{text}'"
    | some 't' =>
      let text := (p.last? 't').getD ""
      match stampOf? text with
      | some n => pure (fromStart n)
      | none => fail s!"invalid date format '{text}'"
    | some _ =>
      let path := (p.last? 'r').getD ""
      match ← look path with
      | .ok s => pure s.changed
      | .error fault => fail s!"failed to get attributes of '{path}': {fault.text}"
    | none => pure now
  if p.operands.isEmpty then misuse "missing file operand"
  let changes := !p.has 'a' || p.has 'm'
  p.operands.forM fun path => do
    let isThere ← match ← look path with
      | .ok _ => pure true
      | .error _ =>
        if p.has 'c' then pure false
        else
          match ← openAt path { writes := true, creates := true } with
          | .ok n =>
            close n
            pure true
          | .error fault =>
            spoil s!"cannot touch '{path}': {fault.text}"
            pure false
    if isThere && changes then
      let _ ← call (.setTime (Text.ofOctets path) time)

/-- The name of a kind of thing. -/
def kindName (s : Status) : String :=
  match s.kind with
  | .file => if s.size = 0 then "regular empty file" else "regular file"
  | .directory => "directory"
  | .device => "character special file"
  | .pipe => "fifo"
  | .link => "symbolic link"

/-- The bits that tell a kind of thing. -/
def kindBits (s : Status) : Nat :=
  match s.kind with
  | .file => 0o100000
  | .directory => 0o040000
  | .device => 0o020000
  | .pipe => 0o010000
  | .link => 0o120000

/-- A format applied to what is known about a path, with escapes if they count. The number bounds
the characters. -/
def statText (path : String) (s : Status) (target : String) (escapes : Bool) :
    Nat → List Char → List Char
  | 0, _ | _, [] => []
  | bound + 1, '%' :: rest =>
    let left := rest.head? == some '-'
    let rest := if left then rest.drop 1 else rest
    let digits := rest.takeWhile Char.isDigit
    let width := (natural? digits).getD 0
    let zeros := digits.head? == some '0'
    let seconds := startSeconds + s.changed / 1000
    let whole := String.ofList (Moment.written (Moment.ofSeconds seconds) "%F %T.%N %z")
    match rest.drop digits.length with
    | [] => ['%']
    | c :: rest =>
      let text : String := match c with
        | 'n' => path
        | 'N' => if target.isEmpty then s!"'{path}'" else s!"'{path}' -> '{target}'"
        | 's' => toString s.size
        | 'a' => String.ofList (Nat.toDigits 8 s.permissions)
        | 'A' => modeLetters s
        | 'f' => String.ofList (Nat.toDigits 16 (kindBits s + s.permissions))
        | 'F' => kindName s
        | 'U' | 'G' => "root"
        | 'u' | 'g' => "0"
        | 'h' => if s.kind = .directory then "2" else "1"
        | 'b' => toString ((s.size + 4095) / 4096 * 8)
        | 'B' => "512"
        | 'o' => "4096"
        | 'X' | 'Y' | 'Z' => toString seconds
        | 'x' | 'y' | 'z' => whole
        | 'W' => "0"
        | 'w' => "-"
        | 't' | 'T' => "0"
        | '%' => "%"
        | _ => "?"
      let pad := List.replicate (width - text.length) (if zeros && !left then '0' else ' ')
      (if left then text.toList ++ pad else pad ++ text.toList) ++
        statText path s target escapes bound rest
  | bound + 1, '\\' :: c :: rest =>
    if escapes then
      let d := match c with
        | 'n' => ['\n']
        | 't' => ['\t']
        | '\\' => ['\\']
        | '"' => ['"']
        | c => ['\\', c]
      d ++ statText path s target escapes bound rest
    else '\\' :: statText path s target escapes bound (c :: rest)
  | bound + 1, c :: rest => c :: statText path s target escapes bound rest

/-- The tool `stat`. -/
def stat : Utility := toWork do
  let p ← parse [⟨'L', false, "dereference", false⟩, ⟨'f', false, "file-system", false⟩,
    ⟨'c', true, "format", false⟩, ⟨'p', true, "printf", false⟩, ⟨'t', false, "terse", false⟩]
  if p.operands.isEmpty then misuse "missing operand"
  let usual := "  File: %n\n  Size: %-10s\tBlocks: %-10b IO Block: %-6o %F\n" ++
    "Access: (%04a/%10A)  Uid: (%5u/%8U)   Gid: (%5g/%8G)\n" ++
    "Access: %x\nModify: %y\nChange: %z\n Birth: %w\n"
  p.operands.forM fun path => do
    match ← look path (p.has 'L') with
    | .error fault => spoil s!"cannot statx '{path}': {fault.text}"
    | .ok s =>
      let target ← match ← call (.readLink (Text.ofOctets path)) with
        | .ok target => pure (Text.octets target)
        | .error _ => pure ""
      let text (escapes : Bool) (format : String) : List Char :=
        statText path s target escapes (format.length + 1) format.toList
      match p.lastOf? ['c', 'p'] with
      | some 'c' => put (text false ((p.last? 'c').getD "") ++ ['\n'])
      | some _ => put (text true ((p.last? 'p').getD ""))
      | none => put (text false usual)

end Confine.Tool
