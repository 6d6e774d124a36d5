import Confine.Shell.Number
import Confine.Text.Real

set_option autoImplicit false

/-! # Formatted output

What `echo` and `printf` write: texts with escapes, and a format that is used again as long as
there are arguments left. -/

namespace Confine.Shell

/-! ## Escapes -/

/-- The value of up to three octal digits at the start of a text as one character, and what follows
them. -/
def octalEscape (cs : List Char) : Char × List Char :=
  let digits := (cs.take 3).takeWhile isOctal
  let n := digits.foldl (fun acc c => acc * 8 + (c.toNat - '0'.toNat)) 0
  (Char.ofNat (n % 256), cs.drop digits.length)

/-- The character of a one-letter escape. -/
def letterEscape? : Char → Option Char
  | 'a' => some '\x07'
  | 'b' => some '\x08'
  | 'e' => some '\x1b'
  | 'f' => some '\x0c'
  | 'n' => some '\n'
  | 'r' => some '\r'
  | 't' => some '\t'
  | 'v' => some '\x0b'
  | '\\' => some '\\'
  | _ => none

/-- The character that follows a backslash stands for, and what follows it. A backslash before
anything else stands for itself. -/
def escapeAt (cs : List Char) : Char × List Char :=
  match cs with
  | [] => ('\\', [])
  | c :: rest =>
    if isOctal c then octalEscape cs
    else
      match letterEscape? c with
      | some d => (d, rest)
      | none => ('\\', cs)

/-- A text with its escapes carried out. Octal numbers may have one more zero in front. The second
result tells whether output ends at an escape that says so. -/
def unescape : Nat → List Char → List Char × Bool
  | 0, cs => (cs, false)
  | _, [] => ([], false)
  | _, '\\' :: 'c' :: _ => ([], true)
  | steps + 1, '\\' :: rest =>
    let start := match rest with
      | '0' :: d :: more => if isOctal d then d :: more else rest
      | _ => rest
    let (c, after) := escapeAt start
    let (text, stops) := unescape steps after
    (c :: text, stops)
  | steps + 1, c :: rest =>
    let (text, stops) := unescape steps rest
    (c :: text, stops)

/-- The words that `echo` writes, up to one that ends the output, and whether there was one. -/
def echoWords : List String → List Char × Bool
  | [] => ([], false)
  | word :: rest =>
    let (text, stops) := unescape (word.length + 1) word.toList
    if stops then (text, true)
    else
      let (more, stops) := echoWords rest
      (text ++ (if rest.isEmpty then [] else [' ']) ++ more, stops)

/-- What `echo` writes. -/
def echoText (args : List String) : List Char :=
  let (newline, args) := match args with
    | "-n" :: rest => (false, rest)
    | _ => (true, args)
  let (text, stops) := echoWords args
  if newline && !stops then text ++ ['\n'] else text

/-! ## Conversions -/

/-- How a value is written. -/
structure Conversion where
  /-- The letter that tells what kind of value it is. -/
  letter : Char
  /-- Whether blanks stand after it instead of before it. -/
  left : Bool := false
  /-- Whether zeros stand before it instead of blanks. -/
  zeros : Bool := false
  /-- What stands in front of a number that is not negative. -/
  plus : List Char := []
  /-- Whether it is written in its other form. -/
  other : Bool := false
  /-- The fewest characters. -/
  width : Nat := 0
  /-- The precision. -/
  precision : Option Nat := none

namespace Conversion

/-- Bring a text after a sign to the width. -/
def pad (c : Conversion) (zeros : Bool) (sign text : List Char) : List Char :=
  let missing := c.width - sign.length - text.length
  if c.left then sign ++ text ++ List.replicate missing ' '
  else if zeros then sign ++ List.replicate missing '0' ++ text
  else List.replicate missing ' ' ++ sign ++ text

/-- A text in writing. -/
def ofText (c : Conversion) (text : List Char) : List Char :=
  c.pad false [] (c.precision.elim text text.take)

/-- The digits of a number with the precision, in a base. Zero has no digits if none are asked
for. -/
def digitsOf (c : Conversion) (base n : Nat) : List Char :=
  let digits := if n = 0 ∧ c.precision = some 0 then [] else Nat.toDigits base n
  List.replicate (c.precision.getD 1 - digits.length) '0' ++ digits

/-- A whole number in writing. -/
def ofInteger (c : Conversion) (n : Int) : List Char :=
  let sign := if n < 0 then ['-'] else c.plus
  c.pad (c.zeros && c.precision.isNone) sign (c.digitsOf 10 n.natAbs)

/-- A number without a sign in writing, in the base that the letter names. -/
def ofNatural (c : Conversion) (n : Nat) : List Char :=
  let zeros := c.zeros && c.precision.isNone
  match c.letter with
  | 'o' =>
    let digits := c.digitsOf 8 n
    let digits := if c.other && digits.head? ≠ some '0' then '0' :: digits else digits
    c.pad zeros [] digits
  | 'x' => c.pad zeros (if c.other && n ≠ 0 then ['0', 'x'] else []) (c.digitsOf 16 n)
  | 'X' =>
    c.pad zeros (if c.other && n ≠ 0 then ['0', 'X'] else [])
      ((c.digitsOf 16 n).map Char.toUpper)
  | _ => c.pad zeros [] (c.digitsOf 10 n)

/-- A real number in writing. -/
def ofReal (c : Conversion) (r : Text.Real) : List Char :=
  let sign := if r.isNegative then ['-'] else c.plus
  let digits := r.digits c.letter c.precision c.other
  let (mark, digits) := if c.letter.toLower = 'a' && r.isFinite then
      (digits.take 2, digits.drop 2) else ([], digits)
  c.pad (c.zeros && r.isFinite) (sign ++ mark) digits

end Conversion

/-! ## Values -/

/-- What is wrong with an argument. -/
inductive ValueFault where
  /-- It is no number. -/
  | expected
  /-- Something follows the number. -/
  | incomplete
  /-- The number is too large. -/
  | outOfRange
  deriving DecidableEq

/-- The wording of what is wrong with an argument. -/
def ValueFault.message (argument : String) : ValueFault → String
  | .expected => s!"{argument}: expected numeric value"
  | .incomplete => s!"{argument}: not completely converted"
  | .outOfRange => s!"{argument}: Numerical result out of range"

/-- The number of the character after a quote at the start of an argument, if there is one. -/
def quotedValue? (argument : String) : Option Nat :=
  match argument.toList with
  | q :: rest => if q = '\x27' ∨ q = '"' then some ((rest.headD '\x00').toNat) else none
  | [] => none

/-- What is wrong with an argument of which a rest was not used. -/
def valueFault (argument rest : List Char) (lost : Bool) : Option ValueFault :=
  if !rest.isEmpty then
    some (if rest.length = argument.length then .expected else .incomplete)
  else if lost then some .outOfRange
  else none

/-- The whole number that an argument writes, kept in the range of signed numbers or of numbers
without a sign, and what is wrong with it. -/
def integerValue (signed : Bool) (argument : String) : Int × Option ValueFault :=
  match quotedValue? argument with
  | some n => (n, none)
  | none =>
    let (n, rest) := integerAt argument.toList
    let (low, high) : Int × Int :=
      if signed then (leastInteger, mostInteger) else (-(UInt64.size - 1), UInt64.size - 1)
    let kept := if signed then max low (min high n) else if n < low then high else min high n
    (kept, valueFault argument.toList rest (kept != n))

/-- The real number that an argument writes, and what is wrong with it. -/
def realValue (argument : String) : Text.Real × Option ValueFault :=
  match quotedValue? argument with
  | some n => ((Text.Real.ofQuotient false n 1).1, none)
  | none =>
    let cs := argument.toList
    match Text.Real.at? (cs.dropWhile isBlank) with
    | some (r, lost, rest) => (r, valueFault cs rest lost)
    | none => (.finite false 0 0, valueFault cs cs false)

/-! ## Formats -/

/-- Why a format is given up. -/
inductive FormatFault where
  /-- The letter of a conversion is missing. -/
  | missing
  /-- A conversion is not known. -/
  | invalid (directive : String)
  deriving DecidableEq

/-- The wording of the reason. -/
def FormatFault.message : FormatFault → String
  | .missing => "missing format character"
  | .invalid directive => s!"{directive}: invalid directive"

/-- What comes of a format. -/
structure Formatted where
  /-- The text. -/
  text : List Char
  /-- The arguments that are left. -/
  rest : List String
  /-- What is wrong with arguments, in words. -/
  faults : List String := []
  /-- Whether output ends here. -/
  stops : Bool := false
  /-- Why the format is given up here, if it is. -/
  broken : Option FormatFault := none

/-- The number of 32 bits with which an argument gives a width or a precision, and what is wrong
with it. -/
def starValue (args : List String) : Int × List String × List String :=
  match args with
  | [] => (0, [], [])
  | a :: rest =>
    let (n, fault) := integerValue true a
    (Int.bmod n UInt32.size, rest, (fault.map (ValueFault.message a)).toList)

/-- Read the flags, the width and the precision of a conversion, some of which arguments give: the
conversion without its letter, the rest of the format, the arguments left and what is wrong with
the others. -/
def conversionAt (cs : List Char) (args : List String) :
    Conversion × List Char × List String × List String :=
  let isFlag (c : Char) : Bool := c == '#' || c == '-' || c == '+' || c == ' ' || c == '0'
  let flags := cs.takeWhile isFlag
  let cs := cs.drop flags.length
  let number (cs : List Char) : Nat × List Char :=
    let (n, rest) := wholeInBase 10 cs
    (n, rest)
  let (width, cs, args, faults) : Int × List Char × List String × List String := match cs with
    | '*' :: rest =>
      let (n, args, faults) := starValue args
      (n, rest, args, faults)
    | _ =>
      let (n, rest) := number cs
      (n, rest, args, [])
  let (precision, cs, args, faults) :
      Option Int × List Char × List String × List String := match cs with
    | '.' :: '*' :: rest =>
      let (n, args, more) := starValue args
      (some n, rest, args, faults ++ more)
    | '.' :: rest =>
      let (n, rest) := number rest
      (some n, rest, args, faults)
    | _ => (none, cs, args, faults)
  let left := flags.contains '-' || decide (width < 0)
  let c : Conversion := {
    letter := ' ', left
    zeros := flags.contains '0'
    plus := if flags.contains '+' then ['+'] else if flags.contains ' ' then [' '] else []
    other := flags.contains '#'
    width := width.natAbs
    precision := (precision.filter (0 ≤ ·)).map Int.toNat }
  (c, cs, args, faults)

/-- Use a format once. The number bounds its parts. -/
def formatOnce : Nat → List Char → List String → Formatted
  | 0, _, args => ⟨[], args, [], false, none⟩
  | _, [], args => ⟨[], args, [], false, none⟩
  | steps + 1, '\\' :: cs, args =>
    let (c, rest) := escapeAt cs
    let f := formatOnce steps rest args
    { f with text := c :: f.text }
  | steps + 1, '%' :: '%' :: cs, args =>
    let f := formatOnce steps cs args
    { f with text := '%' :: f.text }
  | steps + 1, '%' :: cs, args =>
    let (c, rest, args, faults) := conversionAt cs args
    match rest with
    | [] => ⟨[], args, faults, false, some .missing⟩
    | letter :: rest =>
      let c := { c with letter }
      let arg := args.headD ""
      let go (text : List Char) (fault : Option ValueFault) : Formatted :=
        let f := formatOnce steps rest args.tail
        { f with
          text := text ++ f.text
          faults := faults ++ (fault.map (ValueFault.message arg)).toList ++ f.faults }
      if letter = 's' then go (c.ofText arg.toList) none
      else if letter = 'c' then go (c.pad false [] [arg.toList.headD '\x00']) none
      else if letter = 'b' then
        let (text, stops) := unescape (arg.length + 1) arg.toList
        if stops then ⟨c.ofText text, args.tail, faults, true, none⟩ else go (c.ofText text) none
      else if letter = 'd' ∨ letter = 'i' then
        let (n, fault) := integerValue true arg
        go (c.ofInteger n) fault
      else if ['o', 'u', 'x', 'X'].contains letter then
        let (n, fault) := integerValue false arg
        go (c.ofNatural (n % UInt64.size).toNat) fault
      else if ['a', 'A', 'e', 'E', 'f', 'F', 'g', 'G'].contains letter then
        let (r, fault) := realValue arg
        go (c.ofReal r) fault
      else
        let directive := cs.take (cs.length - rest.length)
        ⟨[], args, faults, false, some (.invalid (String.ofList ('%' :: directive)))⟩
  | steps + 1, c :: cs, args =>
    let f := formatOnce steps cs args
    { f with text := c :: f.text }

/-- Use a format as long as there are arguments left that it takes. -/
def formatAll (format : List Char) : Nat → List String → Formatted
  | 0, args => ⟨[], args, [], false, none⟩
  | rounds + 1, args =>
    let f := formatOnce (format.length + 1) format args
    if f.stops || f.broken.isSome || f.rest.isEmpty || f.rest.length == args.length then f
    else
      let more := formatAll format rounds f.rest
      { more with text := f.text ++ more.text, faults := f.faults ++ more.faults }

end Confine.Shell
