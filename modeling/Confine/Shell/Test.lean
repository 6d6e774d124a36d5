import Confine.Shell.Number
import Confine.System.Call
import Confine.Text.Octet

set_option autoImplicit false

/-! # Tests

The conditions of `test` and `[`: comparisons of texts and numbers, questions about files, and
combinations of these. What a word means depends on the words after it: an operator on one word
is a plain word where nothing follows that it could be applied to. The readers below take the
words from the first one they look at, and give their answer with the words from the last one
they have used. -/

namespace Confine.Shell

open Confine.System (Status Work)

/-- An answer, or why there is none. -/
abbrev Answer := ExceptT String Work Bool

/-- Compare two numbers that are written as texts. -/
def compareNumbers (a b : String) (holds : Int → Int → Bool) : Answer :=
  match integer? a, integer? b with
  | some x, some y => pure (holds x y)
  | none, _ => throw s!"Illegal number: {a}"
  | _, none => throw s!"Illegal number: {b}"

/-- What is at a path, or the link there itself. -/
def statusAt (path : String) (whole : Bool := true) :
    ExceptT String Work (Except Fault Status) :=
  ExceptT.lift (Work.call (.look (Text.ofOctets path) whole))

/-- Whether what is at a path is as asked for. -/
def statusIs (path : String) (holds : Status → Bool) (whole : Bool := true) : Answer := do
  match ← statusAt path whole with
  | .ok status => pure (holds status)
  | .error _ => pure false

/-- Whether two paths lead to things that belong together in some way. -/
def bothAre (a b : String) (holds : Status → Status → Bool) : Answer := do
  match ← statusAt a, ← statusAt b with
  | .ok x, .ok y => pure (holds x y)
  | _, _ => pure false

/-- A test on two words. -/
def binaryTest? (operator : String) : Option (String → String → Answer) :=
  match operator with
  | "=" => some fun a b => pure (a == b)
  | "!=" => some fun a b => pure (a != b)
  | "<" => some fun a b => pure (decide (a < b))
  | ">" => some fun a b => pure (decide (b < a))
  | "-eq" => some fun a b => compareNumbers a b (· == ·)
  | "-ne" => some fun a b => compareNumbers a b (· != ·)
  | "-lt" => some fun a b => compareNumbers a b fun x y => decide (x < y)
  | "-le" => some fun a b => compareNumbers a b fun x y => decide (x ≤ y)
  | "-gt" => some fun a b => compareNumbers a b fun x y => decide (y < x)
  | "-ge" => some fun a b => compareNumbers a b fun x y => decide (y ≤ x)
  | "-nt" => some fun a b => bothAre a b fun x y => decide (y.changed < x.changed)
  | "-ot" => some fun a b => bothAre a b fun x y => decide (x.changed < y.changed)
  | "-ef" => some fun a b => bothAre a b fun x y => x.place == y.place
  | _ => none

/-- Whether a bit of the permissions is set. -/
def permits (bit : Nat) (s : Status) : Bool :=
  s.permissions &&& bit ≠ 0

/-- A test on one word. -/
def unaryTest? (operator : String) : Option (String → Answer) :=
  match operator with
  | "-n" => some fun a => pure !a.isEmpty
  | "-z" => some fun a => pure a.isEmpty
  | "-e" | "-r" | "-w" | "-O" | "-G" => some fun a => statusIs a fun _ => true
  | "-f" => some fun a => statusIs a fun s => s.kind == .file
  | "-d" => some fun a => statusIs a fun s => s.kind == .directory
  | "-x" => some fun a => statusIs a fun s => s.kind == .directory || permits 0o111 s
  | "-s" => some fun a => statusIs a fun s => decide (0 < s.size)
  | "-c" => some fun a => statusIs a fun s => s.kind == .device
  | "-p" => some fun a => statusIs a fun s => s.kind == .pipe
  | "-k" => some fun a => statusIs a (permits 0o1000)
  | "-g" => some fun a => statusIs a (permits 0o2000)
  | "-u" => some fun a => statusIs a (permits 0o4000)
  | "-t" =>
    some fun a => if (integer? a).isSome then pure false else throw s!"Illegal number: {a}"
  | "-L" | "-h" => some fun a => statusIs a (fun s => s.kind == .link) false
  | "-S" | "-b" => some fun _ => pure false
  | _ => none

/-- What the first of some words means. -/
inductive Role where
  /-- There is no word. -/
  | nothing
  /-- One of two conditions is to hold. -/
  | or
  /-- Both of two conditions are to hold. -/
  | and
  /-- A condition is not to hold. -/
  | not
  /-- A condition follows up to a closing parenthesis. -/
  | opening
  /-- A closing parenthesis. -/
  | closing
  /-- A test on the next word. -/
  | unary (test : String → Answer)
  /-- A test on the words around. -/
  | binary (test : String → String → Answer)
  /-- A word like any other. -/
  | operand

/-- The meaning of the first of some words. -/
def roleOf : List String → Role
  | [] => .nothing
  | word :: rest =>
    match word with
    | "!" => .not
    | "-o" => .or
    | "-a" => .and
    | "(" => if rest.isEmpty then .operand else .opening
    | ")" => .closing
    | _ =>
      match unaryTest? word, binaryTest? word with
      | some test, _ =>
        let standsAlone := match rest with
          | [] => true
          | [_] => false
          | next :: _ => (binaryTest? next).isSome
        if standsAlone then .operand else .unary test
      | none, some test => .binary test
      | none, none => .operand

/-- A reader of conditions. -/
abbrev TestReader := List String → ExceptT String Work (Bool × List String)

/-- A test whose first word is a word like any other: a comparison, or whether the word has any
characters. -/
def testOperand : TestReader
  | [] => pure (false, [])
  | a :: rest =>
    match roleOf rest, rest with
    | .binary test, _ :: b :: after => do pure (← test a b, b :: after)
    | .binary _, operator :: [] => throw s!"{operator}: argument expected"
    | _, _ => pure (!a.isEmpty, a :: rest)

mutual

/-- Conditions of which one is to hold. -/
def testAny : Nat → TestReader
  | 0, words => pure (false, words)
  | steps + 1, words => do
    let (a, words) ← testAll steps words
    match roleOf (words.drop 1) with
    | .or => do
      let (b, words) ← testAny steps (words.drop 2)
      pure (a || b, words)
    | _ => pure (a, words)

/-- Conditions that are all to hold. -/
def testAll : Nat → TestReader
  | 0, words => pure (false, words)
  | steps + 1, words => do
    let (a, words) ← testOne steps words
    match roleOf (words.drop 1) with
    | .and => do
      let (b, words) ← testAll steps (words.drop 2)
      pure (a && b, words)
    | _ => pure (a, words)

/-- One condition. -/
def testOne : Nat → TestReader
  | 0, words => pure (false, words)
  | steps + 1, words =>
    match roleOf words with
    | .nothing => pure (false, [])
    | .not =>
      if words.length = 1 then pure (true, words)
      else do
        let (a, words) ← testOne steps (words.drop 1)
        pure (!a, words)
    | .opening =>
      match roleOf (words.drop 1) with
      | .closing => pure (false, words.drop 1)
      | _ => do
        let (a, words) ← testAny steps (words.drop 1)
        match roleOf (words.drop 1) with
        | .closing => pure (a, words.drop 1)
        | _ => throw "closing paren expected"
    | .unary test => do pure (← test ((words.drop 1).headD ""), words.drop 1)
    | _ => testOperand words

end

/-- The answer to a condition all of whose words are to be used, or its opposite. -/
def testWhole (opposite : Bool) (words : List String) : Answer := do
  match ← testAny (4 * words.length + 4) words with
  | (_, last :: _ :: _) =>
    throw ((if last.isEmpty then "" else last ++ ": ") ++ "unexpected operator")
  | (answer, _) => pure (answer != opposite)

/-- The answer to a condition of three words, or its opposite. A comparison comes first, then
parentheses, then a negation, which is not taken back by another one. -/
def testThree (opposite : Bool) (a operator b : String) : Answer :=
  match binaryTest? operator with
  | some test => do return (← test a b) != opposite
  | none =>
    if a = "(" ∧ b = ")" then testWhole opposite [operator]
    else if a = "!" then testWhole true [operator, b]
    else testWhole opposite [a, operator, b]

/-- The answer to a condition. Three and four words have meanings of their own. -/
def holds (words : List String) : Answer :=
  match words with
  | [] => pure false
  | [a, operator, b] => testThree false a operator b
  | [a, b, c, d] =>
    if a = "(" ∧ d = ")" then testWhole false [b, c]
    else if a = "!" then testThree true b c d
    else testWhole false words
  | _ => testWhole false words

end Confine.Shell
