set_option autoImplicit false

/-! # Patterns

A star matches any text, a question mark any character, and brackets any of some characters, which
may be ranges and classes with a name; quoted characters match only themselves. -/

namespace Confine.Shell

/-- A character of a pattern, and whether it is quoted. -/
abbrev PatternChar := Char × Bool

/-- Whether a character is unquoted and equal to the given one. -/
def PatternChar.isActive (p : PatternChar) (c : Char) : Bool :=
  p.1 == c && !p.2

/-- Whether a character can be seen and is no blank. -/
def isGraphic (c : Char) : Bool :=
  '!' ≤ c && c ≤ '~'

/-- Whether a character is a control. -/
def isControl (c : Char) : Bool :=
  c < ' ' || c == '\x7f'

/-- The classes of characters with names. -/
def characterClasses : List (String × (Char → Bool)) :=
  [ ("alnum", Char.isAlphanum),
    ("alpha", Char.isAlpha),
    ("blank", fun c => c == ' ' || c == '\t'),
    ("cntrl", isControl),
    ("digit", Char.isDigit),
    ("graph", isGraphic),
    ("lower", Char.isLower),
    ("print", fun c => c == ' ' || isGraphic c),
    ("punct", fun c => isGraphic c && !c.isAlphanum),
    ("space", fun c => c == ' ' || ('\t' ≤ c && c ≤ '\r')),
    ("upper", Char.isUpper),
    ("xdigit", fun c => c.isDigit || ('a' ≤ c && c ≤ 'f') || ('A' ≤ c && c ≤ 'F')) ]

/-- The class whose name with its colons and its bracket starts a text, and what follows it. -/
def classAt? (cs : List Char) : Option ((Char → Bool) × Nat) :=
  characterClasses.findSome? fun (name, holds) =>
    let written := ":" ++ name ++ ":]"
    if written.toList.isPrefixOf cs then some (holds, written.length) else none

/-- Whether one of the members between brackets is a character, and the pattern after the closing
bracket, if there is one. The first member belongs to them even if it is a closing bracket; the
number bounds how many there can be. -/
def membersMatch (c : Char) : Nat → Bool → List PatternChar → Option (Bool × List PatternChar)
  | 0, _, _ => none
  | _, _, [] => none
  | bound + 1, found, a :: rest =>
    let next (found : Bool) (rest : List PatternChar) : Option (Bool × List PatternChar) :=
      match rest with
      | [] => none
      | b :: after =>
        if b.isActive ']' then some (found, after) else membersMatch c bound found rest
    match if a.isActive '[' then classAt? (rest.map Prod.fst) else none with
    | some (holds, length) => next (found || holds c) (rest.drop length)
    | none =>
      match rest with
      | b :: z :: after =>
        if b.isActive '-' && !z.isActive ']' then next (found || (a.1 ≤ c && c ≤ z.1)) after
        else next (found || a.1 == c) rest
      | _ => next (found || a.1 == c) rest

/-- Whether brackets after their opening one match a character, and the pattern after them. -/
def bracketsMatch? (c : Char) (p : List PatternChar) : Option (Bool × List PatternChar) :=
  match p with
  | [] => none
  | a :: rest =>
    if a.isActive '!' then
      (membersMatch c (p.length + 1) false rest).map fun (found, after) => (!found, after)
    else membersMatch c (p.length + 1) false p

/-- Whether a pattern matches a text. The number bounds the steps, for which the two lengths
together are enough. -/
def matchesWithin : Nat → List PatternChar → List Char → Bool
  | 0, p, cs => p.isEmpty && cs.isEmpty
  | _, [], cs => cs.isEmpty
  | steps + 1, a :: p, cs =>
    if a.isActive '*' then
      matchesWithin steps p cs ||
        (match cs with
          | [] => false
          | _ :: rest => matchesWithin steps (a :: p) rest)
    else
      match cs with
      | [] => false
      | c :: rest =>
        if a.isActive '?' then matchesWithin steps p rest
        else if a.isActive '[' then
          match bracketsMatch? c p with
          | some (found, after) => found && matchesWithin steps after rest
          | none => c == '[' && matchesWithin steps p rest
        else a.1 == c && matchesWithin steps p rest

/-- Whether a pattern matches a text. -/
def patternMatches (p : List PatternChar) (cs : List Char) : Bool :=
  matchesWithin (p.length + cs.length + 1) p cs

/-- Whether a pattern can match anything but one text. -/
def isPattern (p : List PatternChar) : Bool :=
  p.any fun a => a.isActive '*' || a.isActive '?' || a.isActive '['

/-- The text without the piece that a pattern matches at its end or start, the longest or the
shortest one; the text itself if there is none. -/
def trimPattern (atEnd longest : Bool) (p : List PatternChar) (cs : List Char) : List Char :=
  let cuts := List.range (cs.length + 1)
  let cuts := if atEnd == longest then cuts else cuts.reverse
  if atEnd then
    ((cuts.find? fun n => patternMatches p (cs.drop n)).map cs.take).getD cs
  else
    ((cuts.find? fun n => patternMatches p (cs.take n)).map cs.drop).getD cs

end Confine.Shell
