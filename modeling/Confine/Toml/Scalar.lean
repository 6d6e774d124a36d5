import Confine.Toml.Value

set_option autoImplicit false

/-! # Numbers, truth values and dates

A value that is neither text nor made of others is a run of letters, digits and a few signs.
`scalar?` tells what such a run means. Whole numbers may be written in four bases, underscores
may stand between two digits, and a date or a time has to exist in the calendar. -/

namespace Confine.Toml

/-! ## Digits -/

/-- The value of a digit in a base of up to sixteen. -/
def digitValue? (base : Nat) (c : Char) : Option Nat :=
  let v :=
    if '0' ≤ c ∧ c ≤ '9' then c.toNat - '0'.toNat
    else if 'a' ≤ c ∧ c ≤ 'f' then c.toNat - 'a'.toNat + 10
    else if 'A' ≤ c ∧ c ≤ 'F' then c.toNat - 'A'.toNat + 10
    else base
  if v < base then some v else none

/-- The digits of a number without the underscores between them. The flag tells whether a
digit came last. -/
def digits? (base : Nat) : Bool → List Char → Option (List Nat)
  | afterDigit, [] => if afterDigit then some [] else none
  | afterDigit, '_' :: rest => if afterDigit then digits? base false rest else none
  | _, c :: rest => do
    let d ← digitValue? base c
    let ds ← digits? base true rest
    some (d :: ds)

/-- The number that digits write. -/
def ofDigits (base : Nat) (ds : List Nat) : Nat :=
  ds.foldl (fun acc d => acc * base + d) 0

/-- The digits of a decimal number, which starts with a zero only if it is one. -/
def decimal? (cs : List Char) : Option (List Nat) := do
  let ds ← digits? 10 false cs
  match ds with
  | 0 :: _ :: _ => none
  | _ => some ds

/-- Take a sign off, and tell whether it was a minus. -/
def unsign : List Char → Bool × List Char
  | '-' :: rest => (true, rest)
  | '+' :: rest => (false, rest)
  | cs => (false, cs)

/-! ## Numbers -/

/-- A whole number. Only decimal numbers have signs. -/
def integer? : List Char → Option Int
  | '0' :: 'x' :: rest => (digits? 16 false rest).map fun ds => (ofDigits 16 ds : Int)
  | '0' :: 'o' :: rest => (digits? 8 false rest).map fun ds => (ofDigits 8 ds : Int)
  | '0' :: 'b' :: rest => (digits? 2 false rest).map fun ds => (ofDigits 2 ds : Int)
  | cs => do
    let (negative, magnitude) := unsign cs
    let ds ← decimal? magnitude
    let n : Int := ofDigits 10 ds
    some (if negative then -n else n)

/-- Whether `mantissa * 10 ^ exponent` rounds to a number within the range of double precision.
An exponent far from zero decides by itself, so that no huge power is computed. -/
def inDoubleRange (mantissa : Nat) (exponent : Int) : Bool :=
  let bound := Nat.pow 2 1024 - Nat.pow 2 970
  let magnitude : Int := (Nat.toDigits 10 mantissa).length + exponent
  if mantissa = 0 ∨ magnitude < 300 then true
  else if magnitude > 320 then false
  else if exponent < 0 then mantissa < bound * Nat.pow 10 exponent.natAbs
  else mantissa * Nat.pow 10 exponent.natAbs < bound

/-- A number with a fraction or an exponent; the result tells whether it is in range. -/
def real? (cs : List Char) : Option Bool := do
  let (_, magnitude) := unsign cs
  if magnitude = ['i', 'n', 'f'] ∨ magnitude = ['n', 'a', 'n'] then some true
  else
    let isExponent (c : Char) := c == 'e' || c == 'E'
    let body := magnitude.takeWhile fun c => !isExponent c
    let tail := magnitude.dropWhile fun c => !isExponent c
    let whole ← decimal? (body.takeWhile (· ≠ '.'))
    let point := body.dropWhile (· ≠ '.')
    if point.isEmpty ∧ tail.isEmpty then none
    else
      let fraction ← if point.isEmpty then some [] else digits? 10 false point.tail
      let (negative, power) := unsign tail.tail
      let exponent ← if tail.isEmpty then some [] else digits? 10 false power
      let power : Int := ofDigits 10 exponent
      let scale := (if negative then -power else power) - fraction.length
      some (inDoubleRange (ofDigits 10 (whole ++ fraction)) scale)

/-! ## Dates and times -/

/-- The number that exactly `n` decimal digits write, and what follows. -/
def fixed? (n : Nat) (cs : List Char) : Option (Nat × List Char) :=
  let head := cs.take n
  if head.length = n ∧ head.all Char.isDigit then
    some (ofDigits 10 (head.map fun c => c.toNat - '0'.toNat), cs.drop n)
  else none

/-- The text after an expected character. -/
def after? (c : Char) : List Char → Option (List Char)
  | d :: rest => if c = d then some rest else none
  | [] => none

/-- The number of days of a month. -/
def daysIn (year month : Nat) : Nat :=
  let leap := year % 4 = 0 ∧ (year % 100 ≠ 0 ∨ year % 400 = 0)
  if month = 2 then (if leap then 29 else 28)
  else if month = 4 ∨ month = 6 ∨ month = 9 ∨ month = 11 then 30
  else 31

/-- What follows a date. -/
def afterDate? (cs : List Char) : Option (List Char) := do
  let (year, cs) ← fixed? 4 cs
  let (month, cs) ← fixed? 2 (← after? '-' cs)
  let (day, cs) ← fixed? 2 (← after? '-' cs)
  if 1 ≤ month ∧ month ≤ 12 ∧ 1 ≤ day ∧ day ≤ daysIn year month then some cs else none

/-- What follows the seconds of a time of day, which may be left out and may have a fraction. -/
def afterSeconds? : List Char → Option (List Char)
  | ':' :: cs => do
    let (second, cs) ← fixed? 2 cs
    if second > 60 then none
    else
      match cs with
      | '.' :: fraction =>
        if (fraction.takeWhile Char.isDigit).isEmpty then none
        else some (fraction.dropWhile Char.isDigit)
      | _ => some cs
  | cs => some cs

/-- What follows a time of day. -/
def afterTime? (cs : List Char) : Option (List Char) := do
  let (hour, cs) ← fixed? 2 cs
  let (minute, cs) ← fixed? 2 (← after? ':' cs)
  if hour ≤ 23 ∧ minute ≤ 59 then afterSeconds? cs else none

/-- Whether a text is empty or an offset from universal time. -/
def isOffset : List Char → Bool
  | [] | ['Z'] | ['z'] => true
  | sign :: cs =>
    (sign == '+' || sign == '-') &&
      (do
        let (hour, cs) ← fixed? 2 cs
        let (minute, cs) ← fixed? 2 (← after? ':' cs)
        some (hour ≤ 23 ∧ minute ≤ 59 ∧ cs.isEmpty)) == some true

/-- Whether a text is a date, a time of day, or a date and a time with or without an offset. -/
def isMoment (cs : List Char) : Bool :=
  match afterDate? cs with
  | some [] => true
  | some (separator :: time) =>
    (separator == 'T' || separator == 't' || separator == ' ') &&
      (afterTime? time).any isOffset
  | none => afterTime? cs == some []

/-! ## Runs -/

/-- Whether a character can be part of a run. -/
def isRunChar (c : Char) : Bool :=
  c.isAlphanum || c == '_' || c == '+' || c == '-' || c == '.' || c == ':'

/-- The value that a run means. -/
def scalar? (cs : List Char) : Option Value :=
  if cs = "true".toList then some (.boolean true)
  else if cs = "false".toList then some (.boolean false)
  else
    match integer? cs with
    | some n => some (.integer n)
    | none =>
      match real? cs with
      | some inRange => some (.real inRange)
      | none => if isMoment cs then some .moment else none

/-- Take a run off a text. A blank between a date and a time belongs to it. -/
def takeRun (cs : List Char) : List Char × List Char :=
  let run := cs.takeWhile isRunChar
  let rest := cs.dropWhile isRunChar
  match rest with
  | ' ' :: digit :: more =>
    if afterDate? run == some [] && digit.isDigit then
      (run ++ ' ' :: (digit :: more).takeWhile isRunChar, (digit :: more).dropWhile isRunChar)
    else (run, rest)
  | _ => (run, rest)

end Confine.Toml
