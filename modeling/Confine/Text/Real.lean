set_option autoImplicit false

/-! # Real numbers in writing

Real numbers as binary fractions of 53 bits, how they are read off a text, and how they are
written with a given number of digits. Rounding is exact: to the nearest number, and to the even
one of two that are equally near. -/

namespace Confine.Text

/-- A real number as it is computed with. -/
inductive Real where
  /-- A number times a power of two, with a sign. -/
  | finite (negative : Bool) (mantissa : Nat) (exponent : Int)
  /-- Larger than any number. -/
  | infinite (negative : Bool)
  /-- No number. -/
  | none (negative : Bool)

namespace Real

/-- The quotient rounded to the nearest number, or to the even one of two. -/
def roundQuotient (n d : Nat) : Nat :=
  let q := n / d
  let r := n % d
  if 2 * r < d then q else if d < 2 * r then q + 1 else q + q % 2

/-- The quotient times a power of two, rounded. -/
def roundScaled (n d : Nat) (power : Int) : Nat :=
  if 0 ≤ power then roundQuotient (n * Nat.pow 2 power.toNat) d
  else roundQuotient n (d * Nat.pow 2 (-power).toNat)

/-- How many bits a mantissa has. -/
def precision : Nat := 53

/-- The smallest exponent. -/
def leastExponent : Int := -1074

/-- The largest exponent. -/
def mostExponent : Int := 971

/-- The number nearest to a quotient, and whether it is out of range. -/
def ofQuotient (negative : Bool) (n d : Nat) : Real × Bool :=
  if n = 0 then (finite negative 0 0, false)
  else
    let near : Int := (Nat.log2 n : Int) - (Nat.log2 d : Int) - precision
    let fits (e : Int) : Bool :=
      if 0 ≤ e then decide (n / (d * Nat.pow 2 e.toNat) < Nat.pow 2 precision)
      else decide (n * Nat.pow 2 (-e).toNat / d < Nat.pow 2 precision)
    let exact := ([near, near + 1, near + 2].find? fits).getD (near + 2)
    let e := max exact leastExponent
    let m := roundScaled n d (-e)
    let (m, e) := if m = Nat.pow 2 precision then (Nat.pow 2 (precision - 1), e + 1) else (m, e)
    let isExact : Bool :=
      if 0 ≤ e then m * Nat.pow 2 e.toNat * d == n else m * d == n * Nat.pow 2 (-e).toNat
    if mostExponent < e then (infinite negative, true)
    else (finite negative m e, exact < leastExponent && !isExact)

/-! ## Reading -/

/-- The value of a hexadecimal or decimal digit. -/
def digitValue? (base : Nat) (c : Char) : Option Nat :=
  let v :=
    if c.isDigit then c.toNat - '0'.toNat
    else if 'a' ≤ c ∧ c ≤ 'f' then c.toNat - 'a'.toNat + 10
    else if 'A' ≤ c ∧ c ≤ 'F' then c.toNat - 'A'.toNat + 10
    else base
  if v < base then some v else Option.none

/-- The digits at the start of a text, and what follows them. -/
def digitsAt (base : Nat) (cs : List Char) : List Nat × List Char :=
  let isDigit (c : Char) := (digitValue? base c).isSome
  ((cs.takeWhile isDigit).filterMap (digitValue? base), cs.dropWhile isDigit)

/-- The number that some digits write. -/
def valueOf (base : Nat) (digits : List Nat) : Nat :=
  digits.foldl (fun acc d => acc * base + d) 0

/-- The exponent after one of two letters, if there is one, and what follows it. -/
def exponentAt (letters : List Char) (cs : List Char) : Int × List Char :=
  match cs with
  | c :: rest =>
    let (sign, digits) : Int × List Char := match rest with
      | '-' :: after => (-1, after)
      | '+' :: after => (1, after)
      | _ => (1, rest)
    let (ds, after) := digitsAt 10 digits
    if letters.contains c && !ds.isEmpty then (sign * valueOf 10 (ds.dropWhile (· == 0)), after)
    else (0, cs)
  | [] => (0, [])

/-- A number with digits on both sides of a point, and what follows it; nothing if there is no
digit. It gives the digits, the power of the base that they stand for, and the rest. -/
def pointed? (base : Nat) (cs : List Char) : Option (Nat × Nat × List Char) :=
  let (whole, after) := digitsAt base cs
  let (fraction, rest) := match after with
    | '.' :: more => digitsAt base more
    | _ => ([], after)
  if whole.isEmpty ∧ fraction.isEmpty then Option.none
  else some (valueOf base (whole ++ fraction), fraction.length, rest)

/-- The farthest that an exponent is followed. -/
def farExponent : Int := 5000

/-- The number after a sign, whether it is out of range, and what follows it. -/
def unsignedAt? (negative : Bool) (cs : List Char) : Option (Real × Bool × List Char) :=
  let word (text : String) : Bool :=
    text.toList.isPrefixOf ((cs.take text.length).map Char.toLower)
  let near (e : Int) : Int := max (-farExponent) (min farExponent e)
  let hex? := match cs with
    | '0' :: x :: rest => if x = 'x' ∨ x = 'X' then pointed? 16 rest else Option.none
    | _ => Option.none
  match hex? with
  | some (n, places, rest) =>
    let (e, rest) := exponentAt ['p', 'P'] rest
    let e := near (e - 4 * places)
    let (value, lost) :=
      if 0 ≤ e then ofQuotient negative (n * Nat.pow 2 e.toNat) 1
      else ofQuotient negative n (Nat.pow 2 (-e).toNat)
    some (value, lost, rest)
  | Option.none =>
    match pointed? 10 cs with
    | some (n, places, rest) =>
      let (e, rest) := exponentAt ['e', 'E'] rest
      let e := near (e - places)
      let (value, lost) :=
        if 0 ≤ e then ofQuotient negative (n * Nat.pow 10 e.toNat) 1
        else ofQuotient negative n (Nat.pow 10 (-e).toNat)
      some (value, lost, rest)
    | Option.none =>
      if word "infinity" then some (infinite negative, false, cs.drop 8)
      else if word "inf" then some (infinite negative, false, cs.drop 3)
      else if word "nan" then some (none negative, false, cs.drop 3)
      else Option.none

/-- The number at the start of a text, whether it is out of range, and what follows it. -/
def at? (cs : List Char) : Option (Real × Bool × List Char) :=
  match cs with
  | '-' :: rest => unsignedAt? true rest
  | '+' :: rest => unsignedAt? false rest
  | _ => unsignedAt? false cs

/-! ## Writing -/

/-- The decimal digits of a number. -/
def decimal (n : Nat) : List Char :=
  Nat.toDigits 10 n

/-- A number of digits brought to at least so many by zeros in front. -/
def atLeast (digits : Nat) (cs : List Char) : List Char :=
  List.replicate (digits - cs.length) '0' ++ cs

/-- The mantissa times powers of two and ten, rounded. -/
def scaled (m : Nat) (e : Int) (tens : Int) : Nat :=
  let (n, d) := if 0 ≤ tens then (m * Nat.pow 10 tens.toNat, 1) else (m, Nat.pow 10 (-tens).toNat)
  roundScaled n d e

/-- A text with a point before its last characters. -/
def withPoint (places : Nat) (always : Bool) (cs : List Char) : List Char :=
  let whole := cs.take (cs.length - places)
  if places = 0 then (if always then whole ++ ['.'] else whole)
  else whole ++ '.' :: cs.drop (cs.length - places)

/-- A number with some places after the point. -/
def fixed (m : Nat) (e : Int) (places : Nat) (always : Bool) : List Char :=
  withPoint places always (atLeast (places + 1) (decimal (scaled m e places)))

/-- The power of ten that a number starts at, once it is rounded to some places after its first
digit, and its digits. -/
def leading (m : Nat) (e : Int) (places : Nat) : Int × Nat :=
  if m = 0 then (0, 0)
  else
    let near : Int := ((Nat.log2 m : Int) + e) * 30103 / 100000
    let digitsFor (power : Int) : Nat := scaled m e (places - power)
    let fits (power : Int) : Bool :=
      let n := digitsFor power
      decide (Nat.pow 10 places ≤ n) && decide (n < Nat.pow 10 (places + 1))
    let power := ([near + 1, near, near - 1].find? fits).getD near
    (power, digitsFor power)

/-- A number as digits times a power of ten. -/
def scientific (letter : Char) (m : Nat) (e : Int) (places : Nat) (always : Bool) : List Char :=
  let (power, n) := leading m e places
  let sign := if power < 0 then '-' else '+'
  withPoint places always (atLeast (places + 1) (decimal n)) ++
    letter :: sign :: atLeast 2 (decimal power.natAbs)

/-- A text without the zeros at the end of its places after the point. -/
def dropZeros (cs : List Char) : List Char :=
  if cs.contains '.' then
    let shorter := (cs.reverse.dropWhile (· == '0')).reverse
    if shorter.getLast? = some '.' then shorter.dropLast else shorter
  else cs

/-- A number in whichever form is the shorter, with so many digits in all. -/
def general (letter : Char) (m : Nat) (e : Int) (digits : Nat) (always : Bool) : List Char :=
  let digits := max digits 1
  let power := (leading m e (digits - 1)).1
  if -4 ≤ power ∧ power < digits then
    let text := fixed m e (digits - 1 - power).toNat always
    if always then text else dropZeros text
  else
    let text := scientific letter m e (digits - 1) always
    let mantissa := text.takeWhile (· ≠ letter)
    if always then text else dropZeros mantissa ++ text.dropWhile (· ≠ letter)

/-- A number as hexadecimal digits times a power of two, with all the places that it needs unless
a number of places is given. -/
def hexadecimal (m : Nat) (e : Int) (places : Option Nat) (always : Bool) : List Char :=
  let hex (n : Nat) : List Char := Nat.toDigits 16 n
  let whole := Nat.pow 2 (precision - 1)
  let power : Int := if m = 0 then 0 else e + (precision - 1 : Nat)
  let (digits, kept) := match places with
    | some n =>
      if n < 13 then (roundQuotient m (Nat.pow 16 (13 - n)), n)
      else (m * Nat.pow 16 (n - 13), n)
    | Option.none => (m, 13)
  let unit := Nat.pow 16 kept
  let fraction := atLeast kept (hex (digits % unit))
  let fraction := if kept = 0 then [] else fraction
  let fraction := if places.isSome then fraction
    else (fraction.reverse.dropWhile (· == '0')).reverse
  let point := if fraction.isEmpty && !always then [] else ['.']
  let power := if m < whole ∧ m ≠ 0 then -1022 else power
  let sign := if power < 0 then '-' else '+'
  '0' :: 'x' :: hex (digits / unit) ++ point ++ fraction ++ 'p' :: sign :: decimal power.natAbs

/-- Whether a number has a minus sign. -/
def isNegative : Real → Bool
  | finite negative _ _ | infinite negative | none negative => negative

/-- Whether a number is finite. -/
def isFinite : Real → Bool
  | finite _ _ _ => true
  | _ => false

/-- The digits of a number without its sign, in the form that a letter names, with as many places
as are asked for. The flag asks for a point in any case. -/
def digits (letter : Char) (places : Option Nat) (always : Bool) (r : Real) : List Char :=
  let text := match r with
    | infinite _ => ['i', 'n', 'f']
    | none _ => ['n', 'a', 'n']
    | finite _ m e =>
      match letter.toLower with
      | 'f' => fixed m e (places.getD 6) always
      | 'e' => scientific 'e' m e (places.getD 6) always
      | 'a' => hexadecimal m e places always
      | _ => general 'e' m e (places.getD 6) always
  if letter.isUpper then text.map Char.toUpper else text

end Real

end Confine.Text
