import Confine.Text.Blank

set_option autoImplicit false

/-! # Instruction streams

An instruction is a mnemonic and its operands, kept as text, and a stream is a list of them
for one architecture. `Stream.parse` reads a stream from lines: a comment starts at the first
`;` or `#`, blank lines are skipped, and the first run of blanks separates the mnemonic from
its operands. `Instruction.render` writes one instruction back. -/

namespace Confine.Code

/-- An instruction that has not been turned into code. -/
structure Instruction where
  /-- The name of the operation. -/
  mnemonic : String
  /-- What it operates on, as written. -/
  operands : String
  deriving DecidableEq, Repr

/-- The instruction on one line. -/
def Instruction.render (i : Instruction) : String :=
  if i.operands.isEmpty then i.mnemonic else i.mnemonic ++ " " ++ i.operands

/-- Instructions for one architecture, in order. -/
structure Stream where
  /-- The architecture that they are meant for. -/
  architecture : String
  /-- The instructions. -/
  instructions : List Instruction
  deriving DecidableEq, Repr

/-- Whether a character starts a comment. -/
def startsComment (c : Char) : Bool :=
  c == ';' || c == '#'

/-- The part of a line that is code, without the blanks around it. -/
def codePart (line : List Char) : List Char :=
  Text.trim (line.takeWhile fun c => !startsComment c)

/-- The instruction that a part of code writes. -/
def Instruction.ofCode (code : List Char) : Instruction where
  mnemonic := String.ofList (code.takeWhile fun c => !Text.isBlank c)
  operands := String.ofList (Text.trim (code.dropWhile fun c => !Text.isBlank c))

/-- The instruction on a line, unless the line is blank or holds only a comment. -/
def Instruction.ofLine? (line : List Char) : Option Instruction :=
  let code := codePart line
  if code.isEmpty then none else some (Instruction.ofCode code)

namespace Stream

/-- The stream without instructions. -/
def empty (architecture : String) : Stream :=
  ⟨architecture, []⟩

/-- The stream that a text writes. -/
def parse (architecture text : String) : Stream :=
  ⟨architecture, (Text.lines text.toList).filterMap Instruction.ofLine?⟩

/-- The stream with one more instruction at its end. -/
def push (s : Stream) (i : Instruction) : Stream :=
  { s with instructions := s.instructions ++ [i] }

/-- The stream for the same architecture without instructions. -/
def clear (s : Stream) : Stream :=
  empty s.architecture

end Stream

end Confine.Code
