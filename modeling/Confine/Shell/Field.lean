import Confine.Shell.Number
import Confine.Shell.Pattern
import Confine.Shell.State

set_option autoImplicit false

/-! # Fields

A word is expanded to cells, and the cells are cut into fields. What was quoted, and what was
written in the command itself, is never cut; the values of parameters and the output of commands
are cut at separators. -/

namespace Confine.Shell

/-- A piece of an expanded word. -/
inductive Cell where
  /-- A character, and whether it is quoted. -/
  | char (c : Char) (quoted : Bool)
  /-- A character that separates fields. -/
  | gap (c : Char)
  /-- Quotes around nothing, which make a field even so. -/
  | mark
  /-- The end of a field. -/
  | cut

/-- The characters of cells that are not to be cut into fields, with something between those that
would be fields of their own. -/
def plainText (between : List Char) (cells : List Cell) : List Char :=
  cells.flatMap fun
    | .char c _ => [c]
    | .gap c => [c]
    | .mark => []
    | .cut => between

/-- The pattern that cells write. -/
def patternOf (between : List Char) (cells : List Cell) : List PatternChar :=
  cells.flatMap fun
    | .char c quoted => [(c, quoted)]
    | .gap c => [(c, false)]
    | .mark => []
    | .cut => between.map fun c => (c, false)

/-- Whether a separator counts only once where it stands several times. -/
def isSoft (c : Char) : Bool :=
  c == ' ' || c == '\t' || c == '\n'

/-- The fields of cells, after the start of one or none, whose characters come latest first.
Blanks between fields separate them only once, whereas every other separator ends a field of its
own; the flag tells whether blanks have just done so, in which case another separator adds
nothing. -/
def fields : Option (List PatternChar) → Bool → List Cell → List (List PatternChar)
  | none, _, [] => []
  | some field, _, [] => [field.reverse]
  | field, _, .char c quoted :: rest =>
    fields (some ((c, quoted) :: field.getD [])) false rest
  | field, _, .mark :: rest => fields (some (field.getD [])) false rest
  | none, _, .cut :: rest => fields none false rest
  | some field, _, .cut :: rest => field.reverse :: fields none false rest
  | some field, _, .gap c :: rest => field.reverse :: fields none (isSoft c) rest
  | none, blank, .gap c :: rest =>
    if isSoft c then fields none blank rest
    else if blank then fields none false rest
    else [] :: fields none false rest

/-- The cells of a value. Separators that are not quoted separate fields. -/
def valueCells (s : State) (quoted : Bool) (value : List Char) : List Cell :=
  if quoted then
    if value.isEmpty then [.mark] else value.map fun c => .char c true
  else
    let separators := s.separators
    value.map fun c => if separators.contains c then .gap c else .char c false

/-- The cells of all arguments, each a field of its own. -/
def argumentCells (s : State) (quoted : Bool) : List Cell :=
  (s.arguments.map fun a => valueCells s quoted a.toList).intersperse [.cut] |>.flatten

/-- The cells of all arguments, joined to one field by the first separator. -/
def joinedCells (s : State) : List Cell :=
  let between := String.ofList (s.separators.take 1)
  valueCells s true (between.intercalate s.arguments).toList

/-- Cells of a word that stands in for a value: where the value is not quoted, separators in the
word separate fields. -/
def separated (s : State) (quoted : Bool) (cells : List Cell) : List Cell :=
  let separators := s.separators
  cells.map fun
    | .char c false => if !quoted && separators.contains c then .gap c else .char c false
    | cell => cell

/-- The text without the newlines at its end. -/
def dropNewlines (cs : List Char) : List Char :=
  (cs.reverse.dropWhile (· == '\n')).reverse

/-! ## Home directories -/

/-- Where a tilde stands for a home directory. -/
inductive Tilde where
  /-- Nowhere. -/
  | nowhere
  /-- At the start of a word. -/
  | atStart
  /-- At the start of a word and after colons. -/
  | afterColons
  deriving DecidableEq

/-- The home directory of the user with a name, or of the user of the shell. -/
def homeOf? (s : State) (user : List Char) : Option String :=
  if user.isEmpty then s.value? "HOME"
  else if user = "root".toList then some "/root"
  else none

/-- The cells of characters that are not quoted, with home directories in place of tildes. The
first flag tells whether a tilde could stand here, the second whether nothing follows the
characters in the word. A name of a user goes up to a slash, or to a colon where tildes can follow
one. -/
def tildeCells (s : State) (t : Tilde) (isLast : Bool) : Bool → List Char → List Cell
  | _, [] => []
  | true, '~' :: rest =>
    let inName (c : Char) : Bool := c ≠ '/' && !(t == .afterColons && c == ':')
    let user := rest.takeWhile inName
    let ends := isLast || user.length < rest.length
    match if ends then homeOf? s user else none with
    | some home =>
      let (name, after) := (user, tildeCells s t isLast false rest)
      home.toList.map (fun c => .char c true) ++ after.drop name.length
    | none => .char '~' false :: tildeCells s t isLast false rest
  | _, c :: rest => .char c false :: tildeCells s t isLast (t == .afterColons && c == ':') rest

end Confine.Shell
