set_option autoImplicit false

/-! # Reading quoted texts

Texts come in four forms: basic ones between double quotes, which know escapes, and literal
ones between single quotes, which do not, each on one line or over several. Every reader here
takes what follows the opening quotes and gives the text and what follows the closing ones.
Over several lines, the closing quotes may be preceded by up to two quotes that belong to the
text. -/

namespace Confine.Toml

/-- A text that was read, and what follows it. -/
abbrev Quotation := Option (List Char × List Char)

/-- Put characters before a text that was read. -/
def Quotation.prepend (cs : List Char) (q : Quotation) : Quotation :=
  q.map fun (text, rest) => (cs ++ text, rest)

/-- Whether a character may stand unescaped in a text on one line: any but the controls, of
which only the tab may. -/
def isPlain (c : Char) : Bool :=
  c == '\t' || (c.toNat ≥ 0x20 && c.toNat ≠ 0x7f)

/-- The value of a hexadecimal digit. -/
def hexValue? (c : Char) : Option Nat :=
  if '0' ≤ c ∧ c ≤ '9' then some (c.toNat - '0'.toNat)
  else if 'a' ≤ c ∧ c ≤ 'f' then some (c.toNat - 'a'.toNat + 10)
  else if 'A' ≤ c ∧ c ≤ 'F' then some (c.toNat - 'A'.toNat + 10)
  else none

/-- The character whose number hexadecimal digits write, if there is one. -/
def codePoint? (ds : List Char) : Option Char := do
  let values ← ds.mapM hexValue?
  let n := values.foldl (fun acc v => acc * 16 + v) 0
  if n.isValidChar then some (Char.ofNat n) else none

/-- The character that a one-letter escape means. -/
def letterEscape? : Char → Option Char
  | 'b' => some '\x08'
  | 't' => some '\t'
  | 'n' => some '\n'
  | 'f' => some '\x0c'
  | 'r' => some '\r'
  | 'e' => some '\x1b'
  | '"' => some '"'
  | '\\' => some '\\'
  | _ => none

/-- The number of hexadecimal digits after a letter that starts a numeric escape. -/
def escapeWidth? : Char → Option Nat
  | 'x' => some 2
  | 'u' => some 4
  | 'U' => some 8
  | _ => none

/-- The character of the escape after a backslash, and how many characters it is written with. -/
def escape? : List Char → Option (Char × Nat)
  | [] => none
  | c :: rest =>
    match escapeWidth? c with
    | some width =>
      if (rest.take width).length = width then
        (codePoint? (rest.take width)).map fun d => (d, width + 1)
      else none
    | none => (letterEscape? c).map fun d => (d, 1)

/-- Whether a newline comes next, after blanks at most. -/
def endsLine (cs : List Char) : Bool :=
  match cs.dropWhile fun c => c == ' ' || c == '\t' with
  | '\n' :: _ => true
  | '\r' :: '\n' :: _ => true
  | _ => false

/-- Read a basic text on one line. The number is how many characters to pass over, which an
escape has already accounted for. -/
def readBasic : Nat → List Char → Quotation
  | _, [] => none
  | skip + 1, _ :: rest => readBasic skip rest
  | 0, c :: rest =>
    if c = '"' then some ([], rest)
    else if c = '\\' then
      match escape? rest with
      | none => none
      | some (d, width) => (readBasic width rest).prepend [d]
    else if isPlain c then (readBasic 0 rest).prepend [c]
    else none

/-- Read a literal text on one line. -/
def readLiteral : List Char → Quotation
  | [] => none
  | c :: rest =>
    if c = '\x27' then some ([], rest)
    else if isPlain c then (readLiteral rest).prepend [c]
    else none

/-- The end of a text over several lines: of the quotes after three closing ones, at most two
belong to the text. -/
def closeWide (quote : Char) : List Char → List Char × List Char
  | a :: b :: rest =>
    if a = quote then
      if b = quote then ([quote, quote], rest) else ([quote], b :: rest)
    else ([], a :: b :: rest)
  | [a] => if a = quote then ([quote], []) else ([], [a])
  | [] => ([], [])

/-- Whether a text starts with three of the given quotes. -/
def startsWide (quote : Char) (cs : List Char) : Bool :=
  cs.take 3 == [quote, quote, quote]

/-- Whether a character may stand in a text over several lines, given what follows it. A
carriage return may only stand before a newline. -/
def isWidePlain (c : Char) (rest : List Char) : Bool :=
  c == '\n' || isPlain c || (c == '\r' && rest.head? == some '\n')

/-- What the reader of a basic text over several lines does with the next character. -/
inductive WideMode where
  /-- It belongs to the text. -/
  | text
  /-- This many characters are passed over. -/
  | skip (n : Nat)
  /-- Blanks and newlines are passed over, after a backslash at the end of a line. -/
  | fold
  deriving DecidableEq

/-- Read a basic text over several lines. -/
def readWideBasic : WideMode → List Char → Quotation
  | _, [] => none
  | .skip (n + 1), _ :: rest => readWideBasic (.skip n) rest
  | mode, c :: rest =>
    if mode = .fold ∧ (c = ' ' ∨ c = '\t' ∨ c = '\n' ∨ (c = '\r' ∧ rest.head? = some '\n')) then
      readWideBasic .fold rest
    else if startsWide '"' (c :: rest) then some (closeWide '"' (rest.drop 2))
    else if c = '\\' then
      if endsLine rest then readWideBasic .fold rest
      else
        match escape? rest with
        | none => none
        | some (d, width) => (readWideBasic (.skip width) rest).prepend [d]
    else if isWidePlain c rest then (readWideBasic .text rest).prepend [c]
    else none

/-- Read a literal text over several lines. -/
def readWideLiteral : List Char → Quotation
  | [] => none
  | c :: rest =>
    if startsWide '\x27' (c :: rest) then some (closeWide '\x27' (rest.drop 2))
    else if isWidePlain c rest then (readWideLiteral rest).prepend [c]
    else none

/-- What follows a newline that comes first, which does not belong to a text over several
lines. -/
def dropNewline : List Char → List Char
  | '\n' :: rest => rest
  | '\r' :: '\n' :: rest => rest
  | cs => cs

/-- Read a text with its opening quotes on one line. -/
def readQuoted? (cs : List Char) : Quotation :=
  match cs with
  | '"' :: rest => readBasic 0 rest
  | '\x27' :: rest => readLiteral rest
  | _ => none

/-- Read a text with its opening quotes in any form. -/
def readText? (cs : List Char) : Quotation :=
  if startsWide '"' cs then readWideBasic .text (dropNewline (cs.drop 3))
  else if startsWide '\x27' cs then readWideLiteral (dropNewline (cs.drop 3))
  else readQuoted? cs

end Confine.Toml
