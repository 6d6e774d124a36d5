import Confine.Text.Regex
import Confine.Tool.Awk.Token

set_option autoImplicit false

/-! # Patterns

Regular expressions as programs write them, in which a backslash also stands before the letters of
escapes and inside sets, and how texts are searched, cut and changed with them. -/

namespace Confine.Tool.Awk

open Confine.Text (Regex)

/-! ## Reading patterns -/

/-- The characters that have a meaning of their own in regular expressions. -/
def operators : List Char :=
  "^$.[]|()*+?\x7b\x7d\\".toList

/-- A character as an expression writes it where it stands for itself. -/
def quoted (c : Char) : List Char :=
  if operators.contains c then ['\\', c] else [c]

/-- The character that a backslash and what follows it stand for, and what comes next. -/
def escaped (cs : List Char) : Char × List Char :=
  match escapedAt? cs with
  | some found => found
  | none =>
    match cs with
    | c :: rest => (c, rest)
    | [] => ('\\', [])

/-- What a set holds. -/
structure Members where
  /-- Single characters. -/
  singles : List Char := []
  /-- Intervals and classes, as they are written. -/
  others : List Char := []

/-- The members of a set up to its closing bracket, and what follows. The number bounds how much
there is. -/
def membersAt? : Nat → Bool → List Char → Option (Members × List Char)
  | 0, _, _ => none
  | _, _, [] => none
  | bound + 1, isFirst, c :: rest => do
    if c = ']' ∧ !isFirst then some ({}, rest)
    else if c = '[' ∧ rest.head? = some ':' then
      let name := rest.takeWhile (· ≠ ']')
      let (m, after) ← membersAt? bound false (rest.drop (name.length + 1))
      some ({ m with others := c :: name ++ ']' :: m.others }, after)
    else
      let (low, rest) := if c = '\\' then escaped rest else (c, rest)
      match rest with
      | '-' :: high :: more =>
        if high = ']' then
          let (m, after) ← membersAt? bound false rest
          some ({ m with singles := low :: m.singles }, after)
        else
          let (high, more) := if high = '\\' then escaped more else (high, more)
          let (m, after) ← membersAt? bound false more
          some ({ m with others := low :: '-' :: high :: m.others }, after)
      | _ =>
        let (m, after) ← membersAt? bound false rest
        some ({ m with singles := low :: m.singles }, after)

/-- A set as expressions write it: closing brackets first, carets and hyphens last. -/
def Members.written (m : Members) (isNegated : Bool) : List Char :=
  let has (c : Char) : List Char := if m.singles.contains c then [c] else []
  let plain := m.singles.filter fun c => !([']', '^', '-'].contains c)
  let inner := has ']' ++ m.others ++ plain ++ has '^' ++ has '-'
  if inner = ['^'] ∧ !isNegated then ['\\', '^']
  else '[' :: (if isNegated then ['^'] else []) ++ inner ++ [']']

/-- Why a text is no pattern. -/
inductive PatternFault where
  /-- A parenthesis is not closed. -/
  | openGroup
  /-- There is nothing to repeat. -/
  | noOperand
  /-- A set is not closed. -/
  | openSet

/-- The wording of a fault. -/
def PatternFault.message : PatternFault → String
  | .openGroup => "missing ')'"
  | .noOperand => "missing operand"
  | .openSet => "bad class -- [], [^] or ["

/-- A pattern as expressions write it. The flag tells whether there is something to repeat. The
number bounds its length. -/
def rewritten : Nat → Bool → List Char → Except PatternFault (List Char)
  | 0, _, _ => .ok []
  | _, _, [] => .ok []
  | bound + 1, _, '\\' :: rest => do
    let (c, rest) := escaped rest
    return quoted c ++ (← rewritten bound true rest)
  | bound + 1, _, '[' :: rest =>
    let isNegated := rest.head? == some '^'
    match membersAt? bound true (if isNegated then rest.drop 1 else rest) with
    | none => .error .openSet
    | some (m, rest) => do return m.written isNegated ++ (← rewritten bound true rest)
  | bound + 1, canRepeat, c :: rest => do
    if c = '*' ∨ c = '+' ∨ c = '?' then
      if canRepeat then return c :: (← rewritten bound true rest) else throw .noOperand
    else if c = '\x7b' then
      let bounds := rest.takeWhile fun d => d.isDigit || d == ','
      let isBounds := canRepeat && bounds.head?.any Char.isDigit &&
        bounds.count ',' ≤ 1 && (rest.drop bounds.length).head? == some '\x7d'
      if isBounds then return c :: (← rewritten bound true rest)
      else return '\\' :: c :: (← rewritten bound true rest)
    else return c :: (← rewritten bound (c ≠ '(' && c ≠ '|' && c ≠ '^') rest)

/-- The regular expression of a pattern. -/
def patternOf (cs : List Char) : Except PatternFault Regex := do
  match Regex.parse true (← rewritten (cs.length + 1) false cs) with
  | .ok e => return e
  | .error .openSet => throw .openSet
  | .error _ => throw .openGroup

/-! ## Searching -/

/-- A text that is searched. -/
def lineOf (cs : List Char) : Regex.Line :=
  { text := cs.toArray }

/-- Whether a text fits an expression. -/
def isFit (e : Regex) (cs : List Char) : Bool :=
  (e.search? (lineOf cs)).isSome

/-- The pieces of a text between matches that are not empty. The number bounds how many there
are. -/
def piecesFrom (e : Regex) (line : Regex.Line) : Nat → Nat → Nat → List (List Char)
  | 0, start, _ => [(line.text.extract start line.text.size).toList]
  | bound + 1, start, place =>
    match e.search? line place with
    | none => [(line.text.extract start line.text.size).toList]
    | some (a, r) =>
      if r.place = a then
        if line.text.size ≤ a then [(line.text.extract start line.text.size).toList]
        else piecesFrom e line bound start (a + 1)
      else (line.text.extract start a).toList :: piecesFrom e line bound r.place r.place

/-- The pieces of a text between matches; an empty text has none. -/
def pieces (e : Regex) (cs : List Char) : List (List Char) :=
  if cs.isEmpty then [] else piecesFrom e (lineOf cs) (cs.length + 1) 0 0

/-- What stands between the fields of a record. -/
inductive Separator where
  /-- Blanks and ends of lines, which also stand around all fields. -/
  | blanks
  /-- Nothing: every character is a field. -/
  | nothing
  /-- A character. -/
  | char (c : Char)
  /-- What a pattern matches. -/
  | pattern (cs : List Char)

/-- The separator that a text stands for. -/
def Separator.ofText : List Char → Separator
  | [] => .nothing
  | [' '] => .blanks
  | [c] => .char c
  | cs => .pattern cs

/-- The words of a text between blanks and ends of lines. -/
def blankWords (cs : List Char) : List (List Char) :=
  (cs.splitOnP fun c => c == ' ' || c == '\t' || c == '\n').filter fun w => !w.isEmpty

/-- The pieces of a text between separators. -/
def Separator.cut (s : Separator) (cs : List Char) : Except PatternFault (List (List Char)) :=
  match s with
  | .blanks => .ok (blankWords cs)
  | .nothing => .ok (cs.map fun c => [c])
  | .char c => .ok (if cs.isEmpty then [] else cs.splitOn c)
  | .pattern p => do return pieces (← patternOf p) cs

/-! ## Replacing -/

/-- What a replacement makes of a match: an ampersand stands for the match, unless there is a
backslash in front of it. -/
def filled (found : List Char) : List Char → List Char
  | '\\' :: '&' :: rest => '&' :: filled found rest
  | '\\' :: '\\' :: rest => '\\' :: filled found rest
  | '&' :: rest => found ++ filled found rest
  | c :: rest => c :: filled found rest
  | [] => []

/-- A text from a place on in which matches are replaced, and how many were. The first flag tells
whether all are replaced, the second one whether a match has ended here. The number bounds the
places. -/
def replaceFrom (e : Regex) (line : Regex.Line) (substitute : List Char) (all : Bool) :
    Nat → Nat → Bool → List Char × Nat
  | 0, place, _ => ((line.text.extract place line.text.size).toList, 0)
  | bound + 1, place, endsHere =>
    let size := line.text.size
    let text (a b : Nat) : List Char := (line.text.extract a b).toList
    match e.search? line place with
    | none => (text place size, 0)
    | some (a, r) =>
      let done := filled (text a r.place) substitute
      if r.place = a then
        let done := if endsHere && a == place then [] else done
        let count := if endsHere && a == place then 0 else 1
        if size ≤ a then (text place a ++ done, count)
        else if !all && count == 1 then (text place a ++ done ++ text a size, 1)
        else
          let (rest, more) := replaceFrom e line substitute all bound (a + 1) false
          (text place a ++ done ++ text a (a + 1) ++ rest, count + more)
      else if all then
        let (rest, more) := replaceFrom e line substitute all bound r.place true
        (text place a ++ done ++ rest, more + 1)
      else (text place a ++ done ++ text r.place size, 1)

/-- A text in which the first match or all matches are replaced, and how many were. -/
def replace (e : Regex) (substitute : List Char) (all : Bool) (cs : List Char) : List Char × Nat :=
  replaceFrom e (lineOf cs) substitute all (cs.length + 2) 0 false

end Confine.Tool.Awk
