import Confine.Text.Blank
import Confine.Text.Decimal

set_option autoImplicit false

/-! # Reading a process's usage

The system describes a running process by two texts: a status text of labelled lines, from
which the resident size is taken, and a single line of fields, from which the processor time
is taken. The second starts with the name of the program in parentheses, and the program
chooses that name, so fields are counted from the last closing parenthesis. -/

namespace Confine.Usage

/-- A 64-bit number in decimal. -/
def number? (cs : List Char) : Option UInt64 :=
  match Text.Decimal.read (UInt64.size - 1) cs with
  | .ok n => some (UInt64.ofNat n)
  | .error _ => none

/-- The label of the line that holds the resident size. -/
def residentLabel : List Char :=
  "VmRSS:".toList

/-- The resident size in bytes, from a status text: the second word of the first line with the
right label, which counts units of 1024 bytes. -/
def residentBytes? (status : String) : Option UInt64 := do
  let line ← (Text.lines status.toList).find? fun line => residentLabel.isPrefixOf line
  let kilobytes ← (Text.words line)[1]?
  (· * 1024) <$> number? kilobytes

/-- What stands after the last closing parenthesis of a text. -/
def afterLastParenthesis? (cs : List Char) : Option (List Char) :=
  if ')' ∈ cs then some (cs.reverse.takeWhile (· ≠ ')')).reverse else none

/-- The processor time in clock ticks, from the line of fields: the twelfth and the thirteenth
field after the name, which hold user and system time, added up. -/
def cpuTicks? (stat : String) : Option UInt64 := do
  let rest ← afterLastParenthesis? stat.toList
  let fields := Text.words rest
  let user ← fields[11]? >>= number?
  let system ← fields[12]? >>= number?
  some (user + system)

end Confine.Usage
