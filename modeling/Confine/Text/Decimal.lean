set_option autoImplicit false

/-! # Reading unsigned decimal numbers

`Decimal.read bound` accepts an optional plus sign and then ASCII digits only, with any
number of leading zeros, and refuses what exceeds `bound`. The text is read from the left,
so the first character that cannot be accepted decides which fault is reported. -/

namespace Confine.Text.Decimal

/-- Why a text is not a number in range. -/
inductive Fault where
  /-- There is nothing to read. -/
  | empty
  /-- A character is not a digit, or a sign stands alone. -/
  | invalidDigit
  /-- The digits read so far exceed the bound. -/
  | tooLarge
  deriving DecidableEq, Repr

/-- The wording of a fault. -/
def Fault.message : Fault → String
  | .empty => "cannot parse integer from empty string"
  | .invalidDigit => "invalid digit found in string"
  | .tooLarge => "number too large to fit in target type"

/-- The value of an ASCII digit. -/
def digitValue? (c : Char) : Option Nat :=
  if '0' ≤ c ∧ c ≤ '9' then some (c.toNat - '0'.toNat) else none

/-- Read the remaining digits of a number of which `acc` has been read. -/
def readDigits (bound : Nat) : Nat → List Char → Except Fault Nat
  | acc, [] => .ok acc
  | acc, c :: rest =>
    match digitValue? c with
    | none => .error .invalidDigit
    | some d =>
      if acc * 10 + d ≤ bound then readDigits bound (acc * 10 + d) rest
      else .error .tooLarge

/-- Read a whole text as a number of at most `bound`. -/
def read (bound : Nat) : List Char → Except Fault Nat
  | [] => .error .empty
  | ['+'] => .error .invalidDigit
  | '+' :: rest => readDigits bound 0 rest
  | cs => readDigits bound 0 cs

/-- Read a 64-bit number. -/
def readUInt64 (s : String) : Except Fault UInt64 :=
  (read (UInt64.size - 1) s.toList).map UInt64.ofNat

/-- Read a 32-bit number. -/
def readUInt32 (s : String) : Except Fault UInt32 :=
  (read (UInt32.size - 1) s.toList).map UInt32.ofNat

end Confine.Text.Decimal
