set_option autoImplicit false

/-! # Patterns for values

A condition of a filter can ask for a value that a pattern matches. Here is which texts are
patterns: characters, classes of them in brackets, groups, choices and repetitions. A word boundary
has a written form, but it cannot be asked for. The texts in question hold no commas, closing braces
and equals signs, so that forms with these are left out. -/

namespace Confine.Log

/-- Why a text is no pattern that can be asked for. -/
inductive PatternFault where
  /-- It is not written like a pattern. -/
  | malformed
  /-- It speaks of word boundaries. -/
  | boundary
  deriving DecidableEq, Repr

/-- The wording of a fault. -/
def PatternFault.message : PatternFault → String
  | .malformed => "error building NFA"
  | .boundary =>
    "unsupported regex feature for DFAs: cannot build DFAs for regexes with Unicode word " ++
      "boundaries; switch to ASCII word boundaries, or heuristically enable Unicode word " ++
      "boundaries or use a different regex engine"

namespace Pattern

/-- What a backslash and the characters after it stand for. -/
inductive Escaped where
  /-- A character. -/
  | literal (c : Char)
  /-- A class of characters. -/
  | someOf
  /-- A place between characters. -/
  | between
  /-- The boundary of a word. -/
  | boundary

/-- The value of a hexadecimal digit. -/
def hexDigit? (c : Char) : Option Nat :=
  if c.isDigit then some (c.toNat - '0'.toNat)
  else if 'a' ≤ c ∧ c ≤ 'f' then some (c.toNat - 'a'.toNat + 10)
  else if 'A' ≤ c ∧ c ≤ 'F' then some (c.toNat - 'A'.toNat + 10)
  else none

/-- A character by the number that some hexadecimal digits write. -/
def numbered? (digits : Nat) (cs : List Char) : Option (Escaped × List Char) :=
  if cs.length < digits then none
  else do
    let values ← (cs.take digits).mapM hexDigit?
    let n := values.foldl (fun n v => n * 16 + v) 0
    if n.isValidChar then some (.literal (Char.ofNat n), cs.drop digits) else none

/-- Read what follows a backslash. -/
def escape? : List Char → Option (Escaped × List Char)
  | [] => none
  | c :: rest =>
    if "dDsSwW".contains c then some (.someOf, rest)
    else if "bB<>".contains c then some (.boundary, rest)
    else if c = 'A' ∨ c = 'z' then some (.between, rest)
    else if "afnrtv".contains c then some (.literal '\n', rest)
    else if c = 'x' then numbered? 2 rest
    else if c = 'u' then numbered? 4 rest
    else if c = 'U' then numbered? 8 rest
    else if c = 'p' ∨ c = 'P' then
      match rest with
      | k :: rest => if "CLMNPSZclmnpsz".contains k then some (.someOf, rest) else none
      | [] => none
    else if c.toNat < 128 ∧ !c.isAlphanum then some (.literal c, rest)
    else none

/-- The names of classes that can stand in brackets of their own inside brackets. -/
def classNames : List String :=
  ["alnum", "alpha", "ascii", "blank", "cntrl", "digit", "graph", "lower", "print", "punct",
    "space", "upper", "word", "xdigit"]

/-- What follows the name of a class with its brackets, if one stands there. -/
def afterClassName? (cs : List Char) : Option (List Char) :=
  match cs with
  | '[' :: ':' :: rest =>
    let rest := if rest.head? = some '^' then rest.drop 1 else rest
    let name := rest.takeWhile Char.isAlpha
    match rest.drop name.length with
    | ':' :: ']' :: after =>
      if classNames.contains (String.ofList name) then some after else none
    | _ => none
  | _ => none

/-- What can stand at the start of a class: a caret, and then hyphens or a closing bracket that
stand for themselves. -/
def afterOpening (cs : List Char) : List Char :=
  let cs := if cs.head? = some '^' then cs.drop 1 else cs
  if cs.head? = some '-' then cs.dropWhile (· == '-')
  else if cs.head? = some ']' then cs.drop 1
  else cs

/-- Read one thing in a class: a character, or `none` for several. -/
def item? : List Char → Option (Option Char × List Char)
  | [] => none
  | '\\' :: rest => do
    match ← escape? rest with
    | (.literal c, rest) => some (some c, rest)
    | (.someOf, rest) => some (none, rest)
    | _ => none
  | c :: rest => some (some c, rest)

/-- What follows a class of which the inside is read, with the number of classes around the place.
The other number bounds how much there is. -/
def afterClass? : Nat → Nat → List Char → Option (List Char)
  | 0, _, _ => none
  | _, _, [] => none
  | bound + 1, depth, ']' :: rest =>
    if depth = 0 then some rest else afterClass? bound (depth - 1) rest
  | bound + 1, depth, '-' :: '-' :: rest => afterClass? bound depth rest
  | bound + 1, depth, '[' :: rest =>
    match afterClassName? ('[' :: rest) with
    | some after => afterClass? bound depth after
    | none => afterClass? bound (depth + 1) (afterOpening rest)
  | bound + 1, depth, cs => do
    let (low, rest) ← item? cs
    match rest with
    | '-' :: next :: _ =>
      if next = ']' ∨ next = '-' then afterClass? bound depth rest
      else
        let (high, rest) ← item? (rest.drop 1)
        match low, high with
        | some low, some high => if low ≤ high then afterClass? bound depth rest else none
        | _, _ => none
    | _ => afterClass? bound depth rest

/-- What follows the opening of a group, and whether the group is still open. -/
def afterGroup? (cs : List Char) : Option (Bool × List Char) :=
  let named (cs : List Char) : Option (Bool × List Char) :=
    let name := cs.takeWhile (· ≠ '>')
    let isGood := match name with
      | [] => false
      | c :: rest => (c.isAlpha || c == '_') && rest.all fun c => c.isAlphanum || "_.[]".contains c
    if isGood && (cs.drop name.length).head? = some '>' then
      some (true, cs.drop (name.length + 1))
    else none
  match cs with
  | '?' :: ':' :: rest => some (true, rest)
  | '?' :: 'P' :: '<' :: rest => named rest
  | '?' :: '<' :: rest => named rest
  | '?' :: rest =>
    let flags := rest.takeWhile fun c => "imsUuxR-".contains c
    let repeats (c : Char) : Bool := 1 < flags.count c
    if flags.isEmpty ∨ flags.getLast? = some '-' ∨ flags.any repeats then none
    else
      match rest.drop flags.length with
      | ':' :: after => some (true, after)
      | ')' :: after => some (false, after)
      | _ => none
  | rest => some (true, rest)

/-- Check a text from a place on: inside how many groups it is, and whether there is something that
can be repeated right before it. The first number bounds how much there is. -/
def check : Nat → Nat → Bool → List Char → Except PatternFault Unit
  | 0, _, _, _ => .error .malformed
  | _, depth, _, [] => if depth = 0 then .ok () else .error .malformed
  | bound + 1, depth, canRepeat, c :: rest =>
    match c with
    | '(' =>
      match afterGroup? rest with
      | some (true, after) => check bound (depth + 1) false after
      | some (false, after) => check bound depth false after
      | none => .error .malformed
    | ')' => if depth = 0 then .error .malformed else check bound (depth - 1) true rest
    | '|' => check bound depth false rest
    | '*' | '+' | '?' => if canRepeat then check bound depth true rest else .error .malformed
    | '\x7b' => .error .malformed
    | '[' =>
      match afterClass? (rest.length + 1) 0 (afterOpening rest) with
      | some after => check bound depth true after
      | none => .error .malformed
    | '\\' =>
      match escape? rest with
      | none => .error .malformed
      | some (.boundary, after) =>
        match check bound depth true after with
        | .error .malformed => .error .malformed
        | _ => .error .boundary
      | some (_, after) => check bound depth true after
    | _ => check bound depth true rest

/-- Whether a text writes a number. -/
def isNumber (cs : List Char) : Bool :=
  let cs := if cs.head? = some '+' ∨ cs.head? = some '-' then cs.drop 1 else cs
  let name := String.ofList (cs.map Char.toLower)
  let digits := cs.takeWhile Char.isDigit
  let rest := cs.drop digits.length
  let fraction := if rest.head? = some '.' then (rest.drop 1).takeWhile Char.isDigit else []
  let rest := if rest.head? = some '.' then rest.drop (fraction.length + 1) else rest
  let isExponent := match rest with
    | [] => true
    | e :: power =>
      let power := if power.head? = some '+' ∨ power.head? = some '-' then power.drop 1 else power
      (e == 'e' || e == 'E') && !power.isEmpty && power.all Char.isDigit
  ["inf", "infinity", "nan"].contains name || (!(digits ++ fraction).isEmpty && isExponent)

end Pattern

/-- Why a text is no value to ask for, if it is none: numbers are values, and patterns are. -/
def valueFault? (cs : List Char) : Option PatternFault :=
  if Pattern.isNumber cs then none
  else
    match Pattern.check (cs.length + 1) 0 false cs with
    | .ok () => none
    | .error fault => some fault

end Confine.Log
