import Confine.Hex
import Confine.Text.Quoted

set_option autoImplicit false

/-! # What goes wrong with code

The causes for which a listing, a region or a block of code is refused, and their wording.
Every failure of this layer is also noted in the journal. -/

namespace Confine.Code

/-- What was missing where something was needed. -/
inductive Missing where
  /-- There are no bytes of code. -/
  | code
  /-- There are no instructions. -/
  | instructions
  /-- The size of a region is zero. -/
  | size
  deriving DecidableEq, Repr

/-- Why a block cannot be used. -/
inductive Unusable where
  /-- Its pages are gone. -/
  | notExecutable
  /-- Its pages hold no bytes. -/
  | empty
  /-- It holds no bytes to write out. -/
  | nothingToDump
  deriving DecidableEq, Repr

/-- Why memory for code was not obtained. -/
inductive AllocFault where
  /-- The size cannot be rounded up to whole pages. -/
  | tooLarge
  /-- The host refuses the mapping, for this reason. -/
  | refused (reason : String)
  deriving DecidableEq, Repr

/-- A failure of the code layer. -/
inductive Error where
  /-- A listing has a lone digit. -/
  | hexParse (fault : Hex.Fault)
  /-- Something is empty that must not be. -/
  | emptyInput (what : Missing)
  /-- A block is used that has no code. -/
  | invalidBlock (why : Unusable)
  /-- An argument holds the character that ends strings. -/
  | invalidArgument (argument : String)
  /-- No memory was obtained. -/
  | alloc (fault : AllocFault)
  /-- The host refuses to make memory executable, for this reason. -/
  | protect (reason : String)
  /-- Instructions cannot be turned into code. -/
  | notImplemented
  deriving DecidableEq, Repr

/-- The wording of what is missing. -/
def Missing.message : Missing → String
  | .code => "empty code"
  | .instructions => "empty instruction stream"
  | .size => "zero-sized code region"

/-- The wording of why a block cannot be used. -/
def Unusable.message : Unusable → String
  | .notExecutable => "block has no code or is not executable"
  | .empty => "block is empty"
  | .nothingToDump => "nothing to dump"

/-- The wording of why memory was not obtained. -/
def AllocFault.message : AllocFault → String
  | .tooLarge => "out of memory"
  | .refused reason => reason

namespace Error

/-- The wording of a failure. -/
def message : Error → String
  | .hexParse fault => fault.message
  | .emptyInput what => "empty input: " ++ what.message
  | .invalidBlock why => "invalid block: " ++ why.message
  | .invalidArgument argument =>
    s!"invalid argument: argument {Text.quoted argument} contains a NUL byte"
  | .alloc fault => "exec alloc failed: " ++ fault.message
  | .protect reason => "exec protect failed: " ++ reason
  | .notImplemented => "not implemented: instruction assembly not implemented"

/-- The failure of the host that lies behind a failure, if there is one. -/
def causes : Error → List String
  | .alloc fault => [fault.message]
  | .protect reason => [reason]
  | _ => []

end Error

end Confine.Code
