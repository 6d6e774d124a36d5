import Confine.Json

set_option autoImplicit false

/-! # Reading JSON

A reader for whole JSON texts. Every function takes the characters that are left and returns
what it read together with the rest, or nothing if the text is malformed. The readers of
values nest, so they carry a bound on their depth of recursion; the length of the text is
always enough, since every step reads at least one character. -/

namespace Confine.Json

/-- The text after the blanks that JSON allows between tokens. -/
def skipBlanks (cs : List Char) : List Char :=
  cs.dropWhile fun c => c == ' ' || c == '\n' || c == '\r' || c == '\t'

/-- The value of a hexadecimal digit. -/
def hexValue? (c : Char) : Option Nat :=
  if '0' ≤ c ∧ c ≤ '9' then some (c.toNat - '0'.toNat)
  else if 'a' ≤ c ∧ c ≤ 'f' then some (c.toNat - 'a'.toNat + 10)
  else if 'A' ≤ c ∧ c ≤ 'F' then some (c.toNat - 'A'.toNat + 10)
  else none

/-- The number that four hexadecimal digits write. -/
def unit? (a b c d : Char) : Option Nat := do
  some ((((← hexValue? a) * 16 + (← hexValue? b)) * 16 + (← hexValue? c)) * 16 + (← hexValue? d))

/-- The characters of a string after its opening quote, and what follows its closing quote.
Two escapes may together name one character beyond the sixteen-bit range. -/
def readString : List Char → Option (List Char × List Char)
  | [] => none
  | '"' :: rest => some ([], rest)
  | '\\' :: 'u' :: a :: b :: c :: d :: '\\' :: 'u' :: e :: f :: g :: h :: rest =>
    match unit? a b c d, unit? e f g h with
    | some high, some low =>
      if 0xd800 ≤ high ∧ high < 0xdc00 ∧ 0xdc00 ≤ low ∧ low < 0xe000 then
        (readString rest).map fun (s, tail) =>
          (Char.ofNat (0x10000 + (high - 0xd800) * 0x400 + (low - 0xdc00)) :: s, tail)
      else
        (readString ('\\' :: 'u' :: e :: f :: g :: h :: rest)).map fun (s, tail) =>
          (Char.ofNat high :: s, tail)
    | _, _ => none
  | '\\' :: 'u' :: a :: b :: c :: d :: rest => do
    let unit ← unit? a b c d
    let (s, tail) ← readString rest
    some (Char.ofNat unit :: s, tail)
  | '\\' :: c :: rest => do
    let plain ← match c with
      | '"' => some '"'
      | '\\' => some '\\'
      | '/' => some '/'
      | 'b' => some '\x08'
      | 'f' => some '\x0c'
      | 'n' => some '\n'
      | 'r' => some '\r'
      | 't' => some '\t'
      | _ => none
    let (s, tail) ← readString rest
    some (plain :: s, tail)
  | c :: rest =>
    if c.toNat < 0x20 then none
    else (readString rest).map fun (s, tail) => (c :: s, tail)

/-- Whether a character can be part of a number. -/
def isNumeric (c : Char) : Bool :=
  c.isDigit || c == '-' || c == '+' || c == '.' || c == 'e' || c == 'E'

/-- The number that a run of numeric characters writes. Only a run of digits, with a minus sign
before it at most, is an integer; a negative zero is not. -/
def number? (cs : List Char) : Option Json :=
  let (negative, digits) := match cs with
    | '-' :: rest => (true, rest)
    | _ => (false, cs)
  match digits with
  | [] => none
  | first :: others =>
    let padded := first == '0' && others.any Char.isDigit && others.all Char.isDigit
    if !first.isDigit || padded then none
    else if digits.all Char.isDigit then
      let n := digits.foldl (fun acc c => acc * 10 + (c.toNat - '0'.toNat)) 0
      if negative then
        some (if n = 0 then .real "-0" else .integer (-(n : Int)))
      else some (.integer n)
    else some (.real (String.ofList cs))

mutual

/-- Read a value. -/
def readValue : Nat → List Char → Option (Json × List Char)
  | 0, _ => none
  | depth + 1, cs =>
    match skipBlanks cs with
    | 'n' :: 'u' :: 'l' :: 'l' :: rest => some (.null, rest)
    | 't' :: 'r' :: 'u' :: 'e' :: rest => some (.bool true, rest)
    | 'f' :: 'a' :: 'l' :: 's' :: 'e' :: rest => some (.bool false, rest)
    | '"' :: rest => (readString rest).map fun (s, tail) => (.string (String.ofList s), tail)
    | '[' :: rest =>
      match skipBlanks rest with
      | ']' :: tail => some (.array [], tail)
      | more => do
        let (items, tail) ← readItems depth more
        some (.array items, tail)
    | '\x7b' :: rest =>
      match skipBlanks rest with
      | '\x7d' :: tail => some (.object [], tail)
      | more => do
        let (fields, tail) ← readFields depth more
        some (.object fields, tail)
    | more => do
      let value ← number? (more.takeWhile isNumeric)
      some (value, more.dropWhile isNumeric)

/-- Read the items of an array up to its closing bracket. -/
def readItems : Nat → List Char → Option (List Json × List Char)
  | 0, _ => none
  | depth + 1, cs => do
    let (item, rest) ← readValue depth cs
    match skipBlanks rest with
    | ']' :: tail => some ([item], tail)
    | ',' :: tail => do
      let (items, tail) ← readItems depth tail
      some (item :: items, tail)
    | _ => none

/-- Read the fields of an object up to its closing brace. -/
def readFields : Nat → List Char → Option (List (String × Json) × List Char)
  | 0, _ => none
  | depth + 1, cs =>
    match skipBlanks cs with
    | '"' :: rest => do
      let (name, rest) ← readString rest
      match skipBlanks rest with
      | ':' :: rest => do
        let (value, rest) ← readValue depth rest
        match skipBlanks rest with
        | '\x7d' :: tail => some ([(String.ofList name, value)], tail)
        | ',' :: tail => do
          let (fields, tail) ← readFields depth tail
          some ((String.ofList name, value) :: fields, tail)
        | _ => none
      | _ => none
    | _ => none

end

/-- The value that a whole text writes. -/
def read? (text : String) : Option Json := do
  let cs := text.toList
  let (value, rest) ← readValue (2 * cs.length + 2) cs
  if (skipBlanks rest).isEmpty then some value else none

end Confine.Json
