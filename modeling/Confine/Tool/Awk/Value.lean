import Confine.Shell.Format
import Confine.Tool.Awk.Syntax

set_option autoImplicit false

/-! # Values

A value is a number or a text, and a text that was read may count as the number that it looks like.
Arrays keep values by keys. Their keys come in an order of their own: by the last bits of a number
that each key has, and of keys that agree in them the latest first. -/

namespace Confine.Tool.Awk

/-! ## Numbers -/

/-- The number of double precision that a real number is. -/
def floatOf : Text.Real → Float
  | .finite negative m e =>
    let x := Float.scaleB (Float.ofNat m) e
    if negative then -x else x
  | .infinite negative => if negative then -(1.0 / 0.0) else 1.0 / 0.0
  | .none _ => 0.0 / 0.0

/-- The real number that a number of double precision stands for: its bits are a sign, an exponent
and a fraction. What is no number counts as negative. -/
def realOf (x : Float) : Text.Real :=
  let bits := x.toBits.toNat
  let unit := Nat.pow 2 52
  let negative := bits / Nat.pow 2 63 == 1
  let exponent := bits / unit % 2048
  let fraction := bits % unit
  if exponent = 2047 then (if fraction = 0 then .infinite negative else .none true)
  else if exponent = 0 then .finite negative fraction Text.Real.leastExponent
  else .finite negative (fraction + unit) (Text.Real.leastExponent + exponent - 1)

/-- The number without its fraction. -/
def wholeOf (x : Float) : Option Int :=
  match realOf x with
  | .finite negative m e =>
    let n := if 0 ≤ e then m * Nat.pow 2 e.toNat else m / Nat.pow 2 (-e).toNat
    some (if negative then -(n : Int) else n)
  | _ => none

/-- The largest number of 64 bits without a sign. -/
def mostNatural : Int := UInt64.size - 1

/-- The number that a fraction is cut off from, brought into the range of 64 bits. -/
def kept (x : Float) : Int :=
  match realOf x with
  | .infinite false => mostNatural
  | _ => (wholeOf x).elim Shell.leastInteger fun n => max Shell.leastInteger (min mostNatural n)

/-- The number without its fraction. -/
def truncated (x : Float) : Float :=
  if x < 0.0 then x.ceil else x.floor

/-- The number at the start of a text after blanks, and what follows it. -/
def numberAt? (cs : List Char) : Option (Float × List Char) :=
  (Text.Real.at? (cs.dropWhile Shell.isBlank)).map fun (r, _, rest) => (floatOf r, rest)

/-- What division leaves, with the sign of the first number. -/
def leftOver (x y : Float) : Float :=
  match realOf x, realOf y with
  | .finite negative m e, .finite _ n f =>
    if n = 0 then 0.0 / 0.0
    else
      let least := min e f
      let a := m * Nat.pow 2 (e - least).toNat
      let b := n * Nat.pow 2 (f - least).toNat
      floatOf (Text.Real.ofQuotient negative (a % b * Nat.pow 2 (max least 0).toNat)
        (Nat.pow 2 (max (-least) 0).toNat)).1
  | .finite _ _ _, .infinite _ => x
  | _, _ => 0.0 / 0.0

/-- Carry out an operation. -/
def Operation.apply (op : Operation) (x y : Float) : Float :=
  match op with
  | .sum => x + y
  | .difference => x - y
  | .product => x * y
  | .quotient => x / y
  | .remainder => leftOver x y
  | .power => Float.pow x y

/-! ## Values -/

/-- A value. -/
inductive Value where
  /-- What a place holds that was given nothing. -/
  | nothing
  /-- A number. -/
  | number (x : Float)
  /-- A text. -/
  | text (cs : List Char)
  /-- A text that was read. -/
  | input (cs : List Char)
  deriving Inhabited

namespace Value

/-- A truth as a value. -/
def ofBool (b : Bool) : Value :=
  .number (if b then 1.0 else 0.0)

/-- A whole number as a value. -/
def ofNat (n : Nat) : Value :=
  .number n.toFloat

/-- The number that a text which was read looks like. -/
def seeming? (cs : List Char) : Option Float :=
  match numberAt? cs with
  | some (x, rest) => if rest.all Shell.isBlank then some x else none
  | none => none

/-- The number that a value counts as. -/
def toNumber : Value → Float
  | .nothing => 0.0
  | .number x => x
  | .text cs | .input cs => ((numberAt? cs).map Prod.fst).getD 0.0

/-- The number that a value is by its nature, if it is one. -/
def asNumber? : Value → Option Float
  | .nothing => some 0.0
  | .number x => some x
  | .text _ => none
  | .input cs => seeming? cs

/-- Whether a value counts as true. -/
def isTrue : Value → Bool
  | .nothing => false
  | .number x => x != 0.0
  | .text cs => !cs.isEmpty
  | .input cs => (seeming? cs).elim (!cs.isEmpty) (· != 0.0)

end Value

/-! ## Formats -/

/-- Why a format cannot be used. -/
inductive FormatRefusal where
  /-- There are too few values. -/
  | few
  /-- A conversion is not known, which is the one with a number. -/
  | improper (number : Nat)

/-- A whole number in writing. -/
def wholeText (n : Int) : List Char :=
  (toString n).toList

/-- A number as a text: with all digits if it is a whole number that is not too large, and
otherwise as a way of writing real numbers says. -/
def numberText (writeReal : Float → List Char) (x : Float) : List Char :=
  let bound : Int := UInt64.size
  match wholeOf x with
  | some n =>
    if floatOf (Text.Real.ofQuotient (n < 0) n.natAbs 1).1 == x ∧ Shell.leastInteger ≤ n ∧ n ≤ bound then
      wholeText (min n mostNatural)
    else writeReal x
  | none => writeReal x

/-- The flags, the width and the precision of a conversion, some of which values give, with the rest
of the format and the values that are left. -/
def conversionAt (cs : List Char) (args : List Value) :
    Shell.Conversion × List Char × List Value :=
  let flags := cs.takeWhile fun c => ['#', '-', '+', ' ', '0'].contains c
  let cs := cs.drop flags.length
  let starred (cs : List Char) (args : List Value) : Int × List Char × List Value :=
    match cs with
    | '*' :: rest => (kept ((args.headD .nothing).toNumber), rest, args.tail)
    | _ =>
      let (n, rest) := Shell.wholeInBase 10 cs
      (n, rest, args)
  let (width, cs, args) := starred cs args
  let (precision, cs, args) : Option Int × List Char × List Value := match cs with
    | '.' :: rest =>
      let (n, rest, args) := starred rest args
      (some n, rest, args)
    | _ => (none, cs, args)
  let cs := cs.dropWhile fun c => c == 'l' || c == 'h'
  ({ letter := ' '
     left := flags.contains '-' || decide (width < 0)
     zeros := flags.contains '0'
     plus := if flags.contains '+' then ['+'] else if flags.contains ' ' then [' '] else []
     other := flags.contains '#'
     width := width.natAbs
     precision := (precision.filter (0 ≤ ·)).map Int.toNat }, cs, args)

/-- A value in writing, if the letter of the conversion is known. -/
def converted? (textOf : Value → List Char) (c : Shell.Conversion) (v : Value) :
    Option (List Char) :=
  if c.letter = 's' then some (c.ofText (textOf v))
  else if c.letter = 'c' then
    let octet := match v with
      | .number x => Char.ofNat (kept x % 256).toNat
      | _ => (textOf v).headD '\x00'
    some (c.pad false [] [octet])
  else if c.letter = 'd' ∨ c.letter = 'i' then some (c.ofInteger (kept v.toNumber))
  else if ['o', 'x', 'X', 'u'].contains c.letter then
    some (c.ofNatural (kept v.toNumber % UInt64.size).toNat)
  else if ['e', 'E', 'f', 'F', 'g', 'G', 'a', 'A'].contains c.letter then
    some (c.ofReal (realOf v.toNumber))
  else none

/-- What a format makes of some values, up to where it cannot be used. The first number bounds its
length, the second one counts conversions. -/
def formatFrom (textOf : Value → List Char) :
    Nat → Nat → List Char → List Value → List Char × Option FormatRefusal
  | 0, _, _, _ => ([], none)
  | _, _, [], _ => ([], none)
  | bound + 1, count, '%' :: '%' :: rest, args =>
    let (text, refusal) := formatFrom textOf bound count rest args
    ('%' :: text, refusal)
  | bound + 1, count, '%' :: cs, args =>
    let (c, rest, args) := conversionAt cs args
    match args, rest with
    | [], _ => ([], some .few)
    | _, [] => ([], some (.improper count))
    | v :: args, letter :: rest =>
      match converted? textOf { c with letter } v with
      | some text =>
        let (more, refusal) := formatFrom textOf bound (count + 1) rest args
        (text ++ more, refusal)
      | none => ([], some (.improper count))
  | bound + 1, count, c :: cs, args =>
    let (text, refusal) := formatFrom textOf bound count cs args
    (c :: text, refusal)

/-- What a format makes of some values, up to where it cannot be used. -/
def format (textOf : Value → List Char) (cs : List Char) (args : List Value) :
    List Char × Option FormatRefusal :=
  formatFrom textOf (cs.length + 1) 1 cs args

/-- A number as a format writes it. -/
def numberBy (form : List Char) (x : Float) : List Char :=
  numberText (fun x => (format (fun _ => []) form [.number x]).1) x

/-- The text that a value counts as, with a format for numbers. -/
def Value.textBy (form : List Char) : Value → List Char
  | .nothing => []
  | .number x => numberBy form x
  | .text cs | .input cs => cs

/-! ## Arrays -/

/-- An array: lists of keys with values. -/
structure Table where
  /-- The lists. -/
  lists : Array (List (List Char × Value)) := Array.replicate 64 []
  /-- How many keys there are. -/
  size : Nat := 0

namespace Table

/-- The number of a key. -/
def digest (key : List Char) : UInt32 :=
  key.foldl (fun h c => (h ^^^ UInt32.ofNat c.toNat) * 16777619) 2166136261

/-- The list that a key belongs to. -/
def listOf (t : Table) (key : List Char) : Nat :=
  (digest key).toNat % max t.lists.size 1

/-- What an array holds under a key. -/
def find? (t : Table) (key : List Char) : Option Value :=
  (t.lists.getD (t.listOf key) []).lookup key

/-- How many keys a list has on average before there are more lists. -/
def mostPerList : Nat := 12

/-- The array with twice as many lists. -/
def spread (t : Table) : Table :=
  let wider : Table :=
    { lists := Array.replicate (2 * t.lists.size) [], size := t.size }
  let items := t.lists.toList.flatten
  let put (w : Table) (item : List Char × Value) : Table :=
    { w with lists := w.lists.modify (w.listOf item.1) (item :: ·) }
  items.foldr (fun item w => put w item) wider

/-- The array with a value under a key, which comes to the front of its list. -/
def insert (t : Table) (key : List Char) (v : Value) : Table :=
  let place := t.listOf key
  let list := t.lists.getD place []
  if (list.lookup key).isSome then
    { t with lists := t.lists.set! place ((key, v) :: list.filter fun item => item.1 != key) }
  else
    let t := if t.lists.size * mostPerList ≤ t.size then t.spread else t
    { lists := t.lists.modify (t.listOf key) ((key, v) :: ·), size := t.size + 1 }

/-- The array without a key. -/
def erase (t : Table) (key : List Char) : Table :=
  if (t.find? key).isSome then
    { lists := t.lists.modify (t.listOf key) fun list => list.filter fun item => item.1 != key
      size := t.size - 1 }
  else t

/-- The keys in their order. -/
def keys (t : Table) : List (List Char) :=
  t.lists.toList.flatten.map Prod.fst

end Table

end Confine.Tool.Awk
