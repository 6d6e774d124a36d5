import Confine.Mode
import Confine.Text.Decimal

set_option autoImplicit false

/-! # Grammars of command lines

A command line names a command by a path of words, and gives it operands and switches. A
`Grammar` says what may be given at one word of the path and which words may follow it. This
module holds the grammars themselves and what is a value of which kind; reading a command line
by a grammar is `CommandLine.Reader`. -/

namespace Confine.CommandLine

/-- What a value may be. -/
inductive ValueKind where
  /-- Any text. -/
  | text
  /-- A path, which is any text but the empty one. -/
  | path
  /-- A 64-bit number. -/
  | wide
  /-- A 32-bit number. -/
  | narrow
  /-- The exact name of a mode. -/
  | mode
  deriving DecidableEq, Repr

/-- The 64-bit number that a value writes. -/
def wide? (value : String) : Option UInt64 :=
  (Text.Decimal.readUInt64 value).toOption

/-- The 32-bit number that a value writes. The number zero may carry a minus sign. -/
def narrow? (value : String) : Option UInt32 :=
  match value.toList with
  | '-' :: digits => if !digits.isEmpty && digits.all (· == '0') then some 0 else none
  | _ => (Text.Decimal.readUInt32 value).toOption

/-- Whether a value is of a kind. -/
def ValueKind.accepts (k : ValueKind) (value : String) : Bool :=
  match k with
  | .text => true
  | .path => !value.isEmpty
  | .wide => (wide? value).isSome
  | .narrow => (narrow? value).isSome
  | .mode => (Mode.ofName? value).isSome

/-- What happens when a switch is met. -/
inductive SwitchRole where
  /-- It is noted. -/
  | note
  /-- It takes a value, which is noted. -/
  | take (kind : ValueKind)
  /-- Reading ends, and help is given. -/
  | help
  /-- Reading ends, and the version is told. -/
  | version
  deriving DecidableEq, Repr

/-- Something that is written with dashes in front. -/
structure Switch where
  /-- Its name, which two dashes precede. -/
  name : String
  /-- The letter that stands for it after a single dash. -/
  letter : Option Char := none
  /-- What happens when it is met. -/
  role : SwitchRole := .note
  /-- Whether it may be given several times at one word of the path. -/
  repeats : Bool := false
  /-- The variable that gives its value where the command line does not. -/
  fallback : Option String := none
  deriving DecidableEq, Repr

/-- A value that is told by its place. -/
structure Operand where
  /-- What it is called in messages. -/
  name : String
  /-- What it may be. -/
  kind : ValueKind := .text
  deriving DecidableEq, Repr

/-- What may be given at a word of the path. All operands have to be given, and so has one of
the words that may follow, if there are any. -/
inductive Grammar where
  /-- A word, with what may be given at it and the words that may follow it. -/
  | word (name : String) (switches : List Switch) (operands : List Operand)
      (commands : List Grammar)
  deriving Inhabited

namespace Grammar

/-- The word itself. -/
def name : Grammar → String
  | word name _ _ _ => name

/-- The switches that may be given at the word. -/
def switches : Grammar → List Switch
  | word _ switches _ _ => switches

/-- The operands that have to be given at the word. -/
def operands : Grammar → List Operand
  | word _ _ operands _ => operands

/-- The words that may follow. -/
def commands : Grammar → List Grammar
  | word _ _ _ commands => commands

/-- The grammar of a word that may follow. -/
def command? (g : Grammar) (name : String) : Option Grammar :=
  g.commands.find? fun c => c.name == name

/-- The switch with a name. -/
def switch? (g : Grammar) (name : String) : Option Switch :=
  g.switches.find? fun s => s.name == name

/-- The switch with a letter. -/
def letter? (g : Grammar) (letter : Char) : Option Switch :=
  g.switches.find? fun s => s.letter == some letter

end Grammar

end Confine.CommandLine
