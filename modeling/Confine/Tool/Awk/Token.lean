import Confine.Tool.Awk.Value

set_option autoImplicit false

/-! # The words of a program

A program is cut into numbers, texts, names, signs and the ends of its lines. A stroke begins a
regular expression wherever no value can have come to an end just before it. -/

namespace Confine.Tool.Awk

/-- A word of a program. -/
inductive Token where
  /-- A number as it is written. -/
  | number (x : Float) (spelling : List Char)
  /-- A text. -/
  | text (cs : List Char)
  /-- A regular expression. -/
  | pattern (cs : List Char)
  /-- A name. -/
  | name (s : String)
  /-- A name with an opening parenthesis right after it. -/
  | called (s : String)
  /-- A word with a meaning of its own. -/
  | word (s : String)
  /-- The name of a function that is always there. -/
  | builtin (s : String)
  /-- A sign. -/
  | sign (s : String)
  /-- The end of a line. -/
  | ending
  /-- The end of the program. -/
  | finish

/-- A word with the number of its line. -/
abbrev Placed : Type := Token × Nat

/-- Complaints about a program. -/
abbrev Complaint : Type := List String

/-- A complaint about a line. -/
def complaintAt (line : Nat) (text : String) : Complaint :=
  [s!"line {line}: {text}"]

/-- The words with meanings of their own. -/
def words : List String :=
  [ "BEGIN", "END", "break", "continue", "delete", "do", "else", "exit", "for", "function",
    "getline", "if", "in", "next", "nextfile", "print", "printf", "return", "while" ]

/-- The functions that are always there, with the least and the largest number of arguments. -/
def builtins : List (String × Nat × Nat) :=
  [ ("atan2", 2, 2), ("close", 1, 1), ("cos", 1, 1), ("exp", 1, 1), ("fflush", 0, 1),
    ("gsub", 2, 3), ("index", 2, 2), ("int", 1, 1), ("length", 0, 1), ("log", 1, 1),
    ("match", 2, 2), ("rand", 0, 0), ("sin", 1, 1), ("split", 2, 3), ("sprintf", 1, 255),
    ("sqrt", 1, 1), ("srand", 0, 1), ("sub", 2, 3), ("substr", 2, 3), ("system", 1, 1),
    ("systime", 0, 0), ("tolower", 1, 1), ("toupper", 1, 1) ]

/-- The signs of two characters. -/
def pairs : List String :=
  [ "+=", "-=", "*=", "/=", "%=", "^=", "==", "<=", ">=", "!=", "!~", "&&", "||", "++", "--",
    ">>" ]

/-- The signs of one character. -/
def singles : List Char :=
  "\x7b\x7d()[];,+-*/%^!><|?:~$=".toList

/-- Whether a value can end with a word. -/
def Token.endsValue : Token → Bool
  | .number _ _ | .text _ | .pattern _ | .name _ | .builtin _ => true
  | .sign s => [")", "]", "++", "--", "$"].contains s
  | _ => false

/-- Whether a character can begin a name. -/
def isNameStart (c : Char) : Bool :=
  c.isAlpha || c == '_'

/-- Whether a character can be part of a name. -/
def isNameChar (c : Char) : Bool :=
  c.isAlphanum || c == '_'

/-! ## Pieces -/

/-- The spelling of the number that a text starts with. -/
def spellingAt (cs : List Char) : List Char :=
  let whole := cs.takeWhile Char.isDigit
  let rest := cs.drop whole.length
  let fraction := if rest.head? = some '.' then '.' :: (rest.drop 1).takeWhile Char.isDigit else []
  let rest := rest.drop fraction.length
  let power := match rest with
    | e :: more =>
      let sign := (more.take 1).filter fun c => c == '+' || c == '-'
      let digits := (more.drop sign.length).takeWhile Char.isDigit
      if (e = 'e' ∨ e = 'E') ∧ !digits.isEmpty then e :: sign ++ digits else []
    | [] => []
  whole ++ fraction ++ power

/-- The value of a hexadecimal digit. -/
def hexValue? (c : Char) : Option Nat :=
  Text.Real.digitValue? 16 c

/-- The character that an escape in a text stands for, and what follows it. -/
def escapedAt? (cs : List Char) : Option (Char × List Char) :=
  match cs with
  | 'a' :: rest => some ('\x07', rest)
  | 'b' :: rest => some ('\x08', rest)
  | 'f' :: rest => some ('\x0c', rest)
  | 'n' :: rest => some ('\n', rest)
  | 'r' :: rest => some ('\r', rest)
  | 't' :: rest => some ('\t', rest)
  | 'v' :: rest => some ('\x0b', rest)
  | 'x' :: h :: rest =>
    match hexValue? h, (rest.head?).bind hexValue? with
    | some a, some b => some (Char.ofNat (16 * a + b), rest.drop 1)
    | some a, none => some (Char.ofNat a, rest)
    | none, _ => none
  | c :: _ => if Shell.isOctal c then some (Shell.octalEscape cs) else none
  | [] => none

/-- The text up to a closing quote, and what follows it. The number bounds its length. -/
def textAt : Nat → List Char → Option (List Char × List Char)
  | 0, _ => none
  | _, [] => none
  | bound + 1, '\\' :: rest =>
    match rest with
    | '"' :: rest => (textAt bound rest).map fun (cs, after) => ('"' :: cs, after)
    | '\\' :: rest => (textAt bound rest).map fun (cs, after) => ('\\' :: cs, after)
    | '\n' :: rest => textAt bound rest
    | _ =>
      match escapedAt? rest with
      | some (c, rest) => (textAt bound rest).map fun (cs, after) => (c :: cs, after)
      | none => (textAt bound rest).map fun (cs, after) => ('\\' :: cs, after)
  | bound + 1, c :: rest =>
    if c = '"' then some ([], rest)
    else if c = '\n' then none
    else (textAt bound rest).map fun (cs, after) => (c :: cs, after)

/-- The regular expression up to a stroke, and what follows it. A stroke in brackets does not end
it. -/
def patternAt : Bool → List Char → Option (List Char × List Char)
  | _, [] => none
  | _, ['\\'] => none
  | inSet, '\\' :: c :: rest =>
    if c = '\n' then none
    else (patternAt inSet rest).map fun (cs, after) =>
      (if c = '/' then c :: cs else '\\' :: c :: cs, after)
  | inSet, c :: rest =>
    if c = '/' ∧ !inSet then some ([], rest)
    else if c = '\n' then none
    else
      let inSet := if c = '[' then true else if c = ']' then false else inSet
      (patternAt inSet rest).map fun (cs, after) => (c :: cs, after)

/-! ## The whole program -/

/-- The word that a name is. -/
def nameToken (name : String) (rest : List Char) : Token :=
  if words.contains name then .word name
  else if (builtins.lookup name).isSome then .builtin name
  else if rest.head? = some '(' then .called name
  else .name name

/-- Cut a program into words, from a place in a line on and after another word. The first number
bounds its length. -/
def tokensFrom : Nat → Nat → Token → List Char → Except Complaint (List Placed)
  | 0, line, _, _ => .ok [(.finish, line)]
  | _, line, _, [] => .ok [(.ending, line), (.finish, line + 1)]
  | bound + 1, line, last, c :: rest => do
    let goOn (t : Token) (after : List Char) : Except Complaint (List Placed) := do
      return (t, line) :: (← tokensFrom bound line t after)
    let short (cs : List Char) : String := String.ofList (cs.take 10)
    if c = '\n' then return (.ending, line) :: (← tokensFrom bound (line + 1) .ending rest)
    else if c = ' ' ∨ c = '\t' ∨ c = '\r' then tokensFrom bound line last rest
    else if c = '#' then tokensFrom bound line last (rest.dropWhile (· ≠ '\n'))
    else if c = '\\' then
      match rest with
      | '\n' :: rest => tokensFrom bound (line + 1) last rest
      | '\r' :: '\n' :: rest => tokensFrom bound (line + 1) last rest
      | _ => .error [s!"{line}: unexpected character '{c}'"]
    else if c = '"' then
      match textAt (rest.length + 1) rest with
      | some (cs, after) => goOn (.text cs) after
      | none =>
        let start := short rest
        .error (complaintAt line ("runaway string constant \"" ++ start ++ " ..."))
    else if c = '/' ∧ !last.endsValue then
      match patternAt false rest with
      | some (cs, after) => goOn (.pattern cs) after
      | none =>
        let start := short rest
        .error (complaintAt line ("runaway regular expression /" ++ start ++ " ..."))
    else if c.isDigit ∨ (c = '.' ∧ rest.head?.any Char.isDigit) then
      let spelling := spellingAt (c :: rest)
      let x := ((numberAt? spelling).map Prod.fst).getD 0.0
      goOn (.number x spelling) ((c :: rest).drop spelling.length)
    else if isNameStart c then
      let name := (c :: rest).takeWhile isNameChar
      let after := (c :: rest).drop name.length
      goOn (nameToken (String.ofList name) after) after
    else if pairs.contains (String.ofList ((c :: rest).take 2)) then
      goOn (.sign (String.ofList ((c :: rest).take 2))) (rest.drop 1)
    else if c = '&' then .error [s!"{line}: unexpected character '{c}'"]
    else if singles.contains c then goOn (.sign c.toString) rest
    else .error [s!"{line}: unexpected character '{c}'"]

/-- The words of a program. -/
def tokens (cs : List Char) : Except Complaint (List Placed) :=
  tokensFrom (cs.length + 1) 1 .ending cs

end Confine.Tool.Awk
