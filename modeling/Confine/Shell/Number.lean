set_option autoImplicit false

/-! # Numbers as arguments

Commands take numbers as decimal digits. Where a sign may stand in front of them, blanks may
stand around them. A number may also be read off the start of a text, in the base that its first
digits tell. -/

namespace Confine.Shell

/-- A decimal number without a sign. -/
def natural? (s : String) : Option Nat :=
  if s.isEmpty ∨ !s.toList.all Char.isDigit then none
  else some (s.toList.foldl (fun acc c => acc * 10 + (c.toNat - '0'.toNat)) 0)

/-- Whether a character may stand around a number. -/
def isBlank (c : Char) : Bool :=
  c == ' ' || ('\t' ≤ c && c ≤ '\r')

/-- A text without the characters at both ends that may stand around a number. -/
def strip (cs : List Char) : List Char :=
  ((cs.dropWhile isBlank).reverse.dropWhile isBlank).reverse

/-- The smallest number of 64 bits. -/
def leastInteger : Int := Int64.minValue.toInt

/-- The largest number of 64 bits. -/
def mostInteger : Int := Int64.maxValue.toInt

/-- A decimal number with or without a sign, which takes no more than 64 bits. -/
def integer? (s : String) : Option Int :=
  let whole? (digits : List Char) : Option Int :=
    (natural? (String.ofList digits)).map fun n => (n : Int)
  let value? := match strip s.toList with
    | '-' :: digits => (whole? digits).map fun n => -n
    | '+' :: digits => whole? digits
    | digits => whole? digits
  value?.filter fun n => leastInteger ≤ n ∧ n ≤ mostInteger

/-- A number that is neither negative nor larger than a signed number of 32 bits, as commands
take them for outcomes, counts and levels. -/
def count? (s : String) : Option Nat :=
  (integer? s).bind fun n =>
    if 0 ≤ n ∧ n ≤ Int32.maxValue.toInt then some n.toNat else none

/-- Whether a character is an octal digit. -/
def isOctal (c : Char) : Bool :=
  '0' ≤ c && c ≤ '7'

/-- A number in octal digits. -/
def octal? (s : String) : Option Nat :=
  if s.isEmpty ∨ !s.toList.all isOctal then none
  else some (s.toList.foldl (fun acc c => acc * 8 + (c.toNat - '0'.toNat)) 0)

/-! ## Numbers in any base -/

/-- The value of a digit in a base of up to sixteen. -/
def digit? (base : Nat) (c : Char) : Option Nat :=
  let v :=
    if c.isDigit then c.toNat - '0'.toNat
    else if 'a' ≤ c ∧ c ≤ 'f' then c.toNat - 'a'.toNat + 10
    else if 'A' ≤ c ∧ c ≤ 'F' then c.toNat - 'A'.toNat + 10
    else base
  if v < base then some v else none

/-- The number in a base at the start of a text, and what follows it. -/
def wholeInBase (base : Nat) (cs : List Char) : Nat × List Char :=
  let isDigit (c : Char) := (digit? base c).isSome
  ((cs.takeWhile isDigit).foldl (fun acc c => acc * base + (digit? base c).getD 0) 0,
    cs.dropWhile isDigit)

/-- The number at the start of a text, in one of three bases, told apart by what it starts with,
and what follows it. -/
def wholeAt (cs : List Char) : Nat × List Char :=
  match cs with
  | '0' :: x :: c :: rest =>
    if (x = 'x' ∨ x = 'X') ∧ (digit? 16 c).isSome then wholeInBase 16 (c :: rest)
    else wholeInBase 8 cs
  | '0' :: _ => wholeInBase 8 cs
  | _ => wholeInBase 10 cs

/-- The number with a sign at the start of a text after blanks, and what follows it; the whole
text if there is none. -/
def integerAt (cs : List Char) : Int × List Char :=
  let start := cs.dropWhile isBlank
  let (sign, digits) : Int × List Char := match start with
    | '-' :: rest => (-1, rest)
    | '+' :: rest => (1, rest)
    | _ => (1, start)
  if digits.head?.any Char.isDigit then
    let (n, after) := wholeAt digits
    (sign * n, after)
  else (0, cs)

end Confine.Shell
