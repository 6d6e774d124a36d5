set_option autoImplicit false

/-! # Regular expressions

Expressions that match pieces of a line: characters and sets of them, sequences, choices,
repetitions, groups, and what a group before has matched. Of the pieces that start at a place the
longest one counts, and of the places the first. An expression is matched by following all ways
through it; of several ways to the same place only the first is followed on. -/

namespace Confine.Text

/-- A set of characters. -/
structure CharSet where
  /-- Whether it holds all characters but those that are listed. -/
  isNegated : Bool := false
  /-- The characters, as closed intervals. -/
  ranges : List (Char × Char) := []
  deriving Repr

/-- Whether a set holds a character. -/
def CharSet.contains (s : CharSet) (c : Char) : Bool :=
  s.ranges.any (fun r => decide (r.1 ≤ c) && decide (c ≤ r.2)) != s.isNegated

/-- A regular expression. -/
inductive Regex where
  /-- Nothing. -/
  | nothing
  /-- One character of a set. -/
  | one (set : CharSet)
  /-- One expression after another. -/
  | both (first second : Regex)
  /-- One expression or another. -/
  | either (first second : Regex)
  /-- An expression several times, at least and at most so often. -/
  | many (inner : Regex) (least : Nat) (most : Option Nat)
  /-- A group with a number. -/
  | group (number : Nat) (inner : Regex)
  /-- What a group has matched. -/
  | again (number : Nat)
  /-- The start of the line. -/
  | start
  /-- The end of the line. -/
  | finish
  /-- A place between characters with or without a word on its two sides; `none` for either. -/
  | boundary (before after : Option Bool) (isDifferent : Bool)
  deriving Inhabited

namespace Regex

/-- How an expression is matched. -/
structure Line where
  /-- The characters. -/
  text : Array Char
  /-- Whether letters count as equal in both cases. -/
  anyCase : Bool := false

/-- How far a match has come. -/
structure Reach where
  /-- The place. -/
  place : Nat
  /-- Where the groups start and end, the latest first. -/
  groups : List (Nat × Nat × Nat) := []

/-- Reaches without those at places that came before. -/
def distinct (reaches : List Reach) : List Reach :=
  let rec go : List Nat → List Reach → List Reach
    | _, [] => []
    | seen, r :: rest =>
      if seen.contains r.place then go seen rest else r :: go (r.place :: seen) rest
  go [] reaches

/-- Go on from a reach several times. The first number bounds how often. -/
def repeated (step : Reach → List Reach) : Nat → Nat → Option Nat → Reach → List Reach
  | 0, _, _, r => [r]
  | bound + 1, least, most, r =>
    if most = some 0 then [r]
    else
      let onward := (step r).filter fun next => least > 0 || next.place ≠ r.place
      let longer := onward.flatMap (repeated step bound (least - 1) (most.map (· - 1)))
      distinct (longer ++ if least = 0 then [r] else [])

/-- Whether a character belongs to words. -/
def isWordChar (c : Char) : Bool :=
  c.isAlphanum || c == '_'

/-- Whether a set holds a character of a line. -/
def Line.holds (line : Line) (set : CharSet) (c : Char) : Bool :=
  set.contains c || (line.anyCase && (set.contains c.toLower || set.contains c.toUpper))

/-- Whether two characters of a line count as equal. -/
def Line.same (line : Line) (a b : Char) : Bool :=
  a == b || (line.anyCase && a.toLower == b.toLower)

/-- Where an expression leads from a reach, the preferred places first. -/
def reaches (line : Line) : Regex → Reach → List Reach
  | .nothing, r => [r]
  | .one set, r =>
    match line.text[r.place]? with
    | some c => if line.holds set c then [{ r with place := r.place + 1 }] else []
    | none => []
  | .both a b, r => distinct ((reaches line a r).flatMap (reaches line b))
  | .either a b, r => distinct (reaches line a r ++ reaches line b r)
  | .many inner least most, r =>
    repeated (reaches line inner) (line.text.size + least + 1) least most r
  | .group n inner, r =>
    (reaches line inner r).map fun next =>
      { next with groups := (n, r.place, next.place) :: next.groups }
  | .again n, r =>
    match r.groups.lookup n with
    | none => []
    | some (a, b) =>
      let length := b - a
      let isSame := (List.range length).all fun k =>
        match line.text[a + k]?, line.text[r.place + k]? with
        | some c, some d => line.same c d
        | _, _ => false
      if isSame then [{ r with place := r.place + length }] else []
  | .start, r => if r.place = 0 then [r] else []
  | .finish, r => if r.place = line.text.size then [r] else []
  | .boundary before after isDifferent, r =>
    let isWord (c : Option Char) : Bool := c.any isWordChar
    let a := r.place ≠ 0 && isWord line.text[r.place - 1]?
    let b := isWord line.text[r.place]?
    let fits := before.all (· == a) && after.all (· == b) &&
      (before.isSome || after.isSome || (a != b) == isDifferent)
    if fits then [r] else []

/-- The longest match that starts at a place. -/
def matchAt? (e : Regex) (line : Line) (place : Nat) : Option Reach :=
  (reaches line e { place }).foldl (fun best r =>
    if best.all fun b => b.place < r.place then some r else best) none

/-- The first match from a place on, with the place where it starts. The number bounds how many
places are tried. -/
def searchFrom (e : Regex) (line : Line) : Nat → Nat → Option (Nat × Reach)
  | 0, _ => none
  | bound + 1, place =>
    if line.text.size < place then none
    else
      match e.matchAt? line place with
      | some r => some (place, r)
      | none => searchFrom e line bound (place + 1)

/-- The first match from a place on, with the place where it starts. -/
def search? (e : Regex) (line : Line) (place : Nat := 0) : Option (Nat × Reach) :=
  e.searchFrom line (line.text.size + 1 - place) place

/-- The piece of a line that a group has matched; nothing if it has not. -/
def Reach.piece (r : Reach) (line : Line) (group : Nat) : List Char :=
  match r.groups.lookup group with
  | some (a, b) => (line.text.extract a b).toList
  | none => []

/-! ## Reading expressions -/

/-- Why a text is no expression. -/
inductive ReadFault where
  /-- A group is not closed. -/
  | openGroup
  /-- A group is closed that was not opened. -/
  | closedGroup
  /-- A set is not closed. -/
  | openSet
  /-- The bounds of a repetition are not closed. -/
  | openBounds
  /-- The bounds of a repetition make no sense. -/
  | badBounds
  /-- Nothing follows a backslash. -/
  | trailingBackslash
  /-- The ends of an interval are the wrong way round. -/
  | badRange
  /-- A class has an unknown name. -/
  | unknownClass
  /-- There is no group to refer to. -/
  | badReference
  /-- There is nothing to repeat. -/
  | badRepetition
  deriving DecidableEq, Repr

/-- The wording of a fault. -/
def ReadFault.message : ReadFault → String
  | .openGroup => "Unmatched ( or \\("
  | .closedGroup => "Unmatched ) or \\)"
  | .openSet => "Unmatched [, [^, [:, [., or [="
  | .openBounds => "Unmatched \\\x7b"
  | .badBounds => "Invalid content of \\\x7b\\\x7d"
  | .trailingBackslash => "Trailing backslash"
  | .badRange => "Invalid range end"
  | .unknownClass => "Invalid character class name"
  | .badReference => "Invalid back reference"
  | .badRepetition => "Invalid preceding regular expression"

/-- The classes of characters with names. -/
def namedSets : List (String × List (Char × Char)) :=
  let upper := ('A', 'Z')
  let lower := ('a', 'z')
  let digit := ('0', '9')
  [ ("alpha", [upper, lower]), ("digit", [digit]), ("alnum", [upper, lower, digit]),
    ("upper", [upper]), ("lower", [lower]), ("space", [('\t', '\r'), (' ', ' ')]),
    ("blank", [('\t', '\t'), (' ', ' ')]), ("print", [(' ', '~')]), ("graph", [('!', '~')]),
    ("punct", [('!', '/'), (':', '@'), ('[', '\x60'), ('\x7b', '~')]),
    ("cntrl", [('\x00', '\x1f'), ('\x7f', '\x7f')]),
    ("xdigit", [digit, ('A', 'F'), ('a', 'f')]) ]

/-- The characters of words. -/
def wordRanges : List (Char × Char) :=
  [('A', 'Z'), ('a', 'z'), ('0', '9'), ('_', '_')]

/-- The blanks. -/
def spaceRanges : List (Char × Char) :=
  [('\t', '\r'), (' ', ' ')]

/-- Read the inside of a set after its opening bracket. The flag tells whether a closing bracket
stands for itself; the number bounds how much there is. -/
def readSet : Nat → Bool → List (Char × Char) → List Char →
    Except ReadFault (List (Char × Char) × List Char)
  | 0, _, _, _ => .error .openSet
  | _, _, _, [] => .error .openSet
  | bound + 1, isFirst, ranges, c :: rest =>
    if c = ']' ∧ !isFirst then .ok (ranges, rest)
    else
      match c, rest with
      | '[', ':' :: rest =>
        let name := rest.takeWhile (· ≠ ':')
        match rest.drop name.length with
        | ':' :: ']' :: after =>
          match namedSets.lookup (String.ofList name) with
          | some set => readSet bound false (set ++ ranges) after
          | none => .error .unknownClass
        | _ => .error .openSet
      | '[', '.' :: d :: '.' :: ']' :: after | '[', '=' :: d :: '=' :: ']' :: after =>
        readSet bound false ((d, d) :: ranges) after
      | low, '-' :: high :: after =>
        if high = ']' then readSet bound false ((low, low) :: ranges) rest
        else if low ≤ high then readSet bound false ((low, high) :: ranges) after
        else .error .badRange
      | _, _ => readSet bound false ((c, c) :: ranges) rest

/-- Read a set after its opening bracket. -/
def setAt (cs : List Char) : Except ReadFault (CharSet × List Char) := do
  let isNegated := cs.head? == some '^'
  let cs := if isNegated then cs.drop 1 else cs
  let (ranges, rest) ← readSet (cs.length + 1) true [] cs
  return ({ isNegated, ranges }, rest)

/-- Read the bounds of a repetition up to the text that closes them. -/
def boundsAt (closing cs : List Char) : Except ReadFault (Nat × Option Nat × List Char) :=
  let number (ds : List Char) : Nat :=
    ds.foldl (fun n d => n * 10 + (d.toNat - '0'.toNat)) 0
  let low := cs.takeWhile Char.isDigit
  let rest := cs.drop low.length
  let hasComma := rest.head? == some ','
  let high := if hasComma then (rest.drop 1).takeWhile Char.isDigit else []
  let rest := if hasComma then rest.drop (high.length + 1) else rest
  if rest.isEmpty then .error .openBounds
  else if !closing.isPrefixOf rest ∨ (low.isEmpty ∧ !hasComma) then .error .badBounds
  else
    let most := if !hasComma then some (number low)
      else if high.isEmpty then none else some (number high)
    if most.any (· < number low) then .error .badBounds
    else .ok (number low, most, rest.drop closing.length)

/-- What a reader of expressions knows. -/
structure Reading where
  /-- Whether operators stand without backslashes. -/
  extended : Bool
  /-- How many groups were opened. -/
  groups : Nat := 0

/-- What the characters at a place mean. -/
inductive Token where
  /-- A character that stands for itself. -/
  | char (c : Char)
  /-- An expression of its own. -/
  | atom (e : Regex)
  /-- The opening of a group. -/
  | opening
  /-- The end of a group. -/
  | closing
  /-- The sign between choices. -/
  | choice
  /-- The sign of a repetition. -/
  | times (least : Nat) (most : Option Nat)
  /-- The opening of bounds. -/
  | bounds

/-- What a backslash and a character after it mean apart from operators. -/
def escaped (c : Char) : Token :=
  match c with
  | 'w' => .atom (.one { ranges := wordRanges })
  | 'W' => .atom (.one { isNegated := true, ranges := wordRanges })
  | 's' => .atom (.one { ranges := spaceRanges })
  | 'S' => .atom (.one { isNegated := true, ranges := spaceRanges })
  | 'b' => .atom (.boundary none none true)
  | 'B' => .atom (.boundary none none false)
  | '<' => .atom (.boundary (some false) (some true) true)
  | '>' => .atom (.boundary (some true) (some false) true)
  | '\x60' => .atom .start
  | '\x27' => .atom .finish
  | 'n' => .char '\n'
  | _ => if '1' ≤ c ∧ c ≤ '9' then .atom (.again (c.toNat - '0'.toNat)) else .char c

/-- What a character means that is an operator in one of the two forms. -/
def operator? (c : Char) : Option Token :=
  match c with
  | '(' => some .opening
  | ')' => some .closing
  | '|' => some .choice
  | '+' => some (.times 1 none)
  | '?' => some (.times 0 (some 1))
  | '\x7b' => some .bounds
  | _ => none

/-- Read what stands at a place. -/
def tokenAt (extended : Bool) : List Char → Except ReadFault (Option (Token × List Char))
  | [] => .ok none
  | '\\' :: [] => .error .trailingBackslash
  | '\\' :: c :: rest =>
    match if extended then none else operator? c with
    | some t => .ok (some (t, rest))
    | none => .ok (some (escaped c, rest))
  | '[' :: rest => do
    let (set, rest) ← setAt rest
    .ok (some (.atom (.one set), rest))
  | '.' :: rest => .ok (some (.atom (.one { isNegated := true }), rest))
  | '*' :: rest => .ok (some (.times 0 none, rest))
  | c :: rest =>
    match if extended then operator? c else none with
    | some t => .ok (some (t, rest))
    | none => .ok (some (.char c, rest))

/-- Whether a choice or a group ends at a place. -/
def endsAt (extended : Bool) (cs : List Char) : Bool :=
  match tokenAt extended cs with
  | .ok none => true
  | .ok (some (.closing, _)) | .ok (some (.choice, _)) => true
  | _ => false

mutual

/-- Read choices, and give the number of groups so far and what follows. -/
def readChoices (extended : Bool) : Nat → Bool → Nat → List Char →
    Except ReadFault (Regex × Nat × List Char)
  | 0, _, _, _ => .error .openGroup
  | bound + 1, inGroup, groups, cs => do
    let (first, groups, rest) ← readSequence extended bound inGroup groups none cs
    match ← tokenAt extended rest with
    | some (.choice, rest) =>
      let (second, groups, rest) ← readChoices extended bound inGroup groups rest
      .ok (.either first second, groups, rest)
    | _ => .ok (first, groups, rest)

/-- Read expressions that follow one another, after the one before. -/
def readSequence (extended : Bool) : Nat → Bool → Nat → Option Regex → List Char →
    Except ReadFault (Regex × Nat × List Char)
  | 0, _, _, _, _ => .error .openGroup
  | bound + 1, inGroup, groups, before, cs => do
    let joined (last : Regex) : Regex := before.elim last fun e => .both e last
    let literal (c : Char) : Regex := .one { ranges := [(c, c)] }
    let goOn (last : Regex) (groups : Nat) (rest : List Char) :
        Except ReadFault (Regex × Nat × List Char) :=
      readSequence extended bound inGroup groups (some (joined last)) rest
    match cs, before with
    | '^' :: rest, none => goOn .start groups rest
    | '^' :: rest, some e =>
      if extended then goOn .start groups rest
      else readRepeated extended bound inGroup groups (some e) (literal '^') rest
    | '$' :: rest, _ =>
      if extended || endsAt extended rest then goOn .finish groups rest
      else readRepeated extended bound inGroup groups before (literal '$') rest
    | _, _ =>
      match ← tokenAt extended cs with
      | none => if inGroup then .error .openGroup else .ok (before.getD .nothing, groups, [])
      | some (.closing, rest) =>
        if inGroup then .ok (before.getD .nothing, groups, cs)
        else if extended then
          readRepeated extended bound inGroup groups before (literal ')') rest
        else .error .closedGroup
      | some (.choice, _) => .ok (before.getD .nothing, groups, cs)
      | some (.opening, rest) =>
        let number := groups + 1
        let (inner, groups, rest) ← readChoices extended bound true number rest
        match ← tokenAt extended rest with
        | some (.closing, rest) =>
          readRepeated extended bound inGroup groups before (.group number inner) rest
        | _ => .error .openGroup
      | some (.char c, rest) =>
        readRepeated extended bound inGroup groups before (literal c) rest
      | some (.atom (.again n), rest) =>
        if groups < n then .error .badReference
        else readRepeated extended bound inGroup groups before (.again n) rest
      | some (.atom e, rest) => readRepeated extended bound inGroup groups before e rest
      | some (.times _ _, rest) =>
        if extended then readSequence extended bound inGroup groups before rest
        else readRepeated extended bound inGroup groups before (literal '*') rest
      | some (.bounds, rest) =>
        if extended then readRepeated extended bound inGroup groups before (literal '\x7b') rest
        else .error .badRepetition

/-- Read the repetitions of an expression, and what follows. -/
def readRepeated (extended : Bool) : Nat → Bool → Nat → Option Regex → Regex → List Char →
    Except ReadFault (Regex × Nat × List Char)
  | 0, _, _, _, _, _ => .error .openGroup
  | bound + 1, inGroup, groups, before, e, cs => do
    match ← tokenAt extended cs with
    | some (.times least most, rest) =>
      readRepeated extended bound inGroup groups before (.many e least most) rest
    | some (.bounds, rest) =>
      let closing := if extended then ['\x7d'] else ['\\', '\x7d']
      let (least, most, rest) ← boundsAt closing rest
      readRepeated extended bound inGroup groups before (.many e least most) rest
    | _ =>
      let joined := before.elim e fun b => Regex.both b e
      readSequence extended bound inGroup groups (some joined) cs

end

/-- The expression that a text writes, with operators that stand without backslashes or with
them. -/
def parse (extended : Bool) (cs : List Char) : Except ReadFault Regex := do
  let (e, _, rest) ← readChoices extended (4 * cs.length + 8) false 0 cs
  if rest.isEmpty then .ok e else .error .closedGroup

/-- How many groups an expression has. -/
def groupCount : Regex → Nat
  | .both a b | .either a b => groupCount a + groupCount b
  | .many inner _ _ => groupCount inner
  | .group _ inner => groupCount inner + 1
  | _ => 0

end Regex

end Confine.Text
