import Confine.Machine

set_option autoImplicit false

/-! # A 64-bit machine with a small instruction set

`Amd64.host` is a machine with pages of 4096 bytes that runs the code it is given: integer
arithmetic on the result register, a look at the argument count, and reading the bytes of the
arguments. Decoding takes one instruction off the front of the code, and running stops at
the first return. Every instruction is at least one byte long, so the code itself bounds the
run: nothing here jumps. -/

namespace Confine.Machine.Amd64

/-! ## Instructions -/

/-- An instruction on the result register. -/
inductive Instruction where
  /-- Put a constant into the register. -/
  | load (value : UInt32)
  /-- Clear the register. -/
  | clear
  /-- Put the argument count into the register. -/
  | loadCount
  /-- Add the argument count. -/
  | addCount
  /-- Subtract the argument count. -/
  | subtractCount
  /-- Multiply by the argument count. -/
  | multiplyCount
  /-- Negate the register. -/
  | negate
  /-- Turn around every bit of the register, which leaves the zero flag as it is. -/
  | invert
  /-- Add a constant. -/
  | add (value : UInt32)
  /-- Subtract a constant. -/
  | subtract (value : UInt32)
  /-- Do nothing. -/
  | skip
  /-- Put an entry of the argument table into the register. -/
  | loadArgument (index : Nat)
  /-- Put the byte at a distance from where the register points into the register. -/
  | loadByte (offset : Int)
  /-- Compare the first entry of the argument table with null. -/
  | testArgument
  /-- Put one into the register's low byte if the last result was zero, and zero otherwise. -/
  | setIfZero
  /-- Return the register. -/
  | ret
  deriving DecidableEq, Repr

/-- A byte read as a signed number. -/
def signed (b : UInt8) : Int :=
  b.toInt8.toInt

/-- A signed byte widened to a word. -/
def widen (b : UInt8) : UInt32 :=
  (Int32.ofInt (signed b)).toUInt32

/-- The word that four bytes write, least significant byte first. -/
def word (a b c d : UInt8) : UInt32 :=
  UInt32.ofNat (a.toNat + 256 * (b.toNat + 256 * (c.toNat + 256 * d.toNat)))

/-- The first instruction of a piece of code and the code after it. An entry of the argument
table takes eight bytes, and a displacement that is no multiple of this reads no entry. -/
def decode? : List UInt8 → Option (Instruction × List UInt8)
  | 0xb8 :: a :: b :: c :: d :: rest => some (.load (word a b c d), rest)
  | 0x31 :: 0xc0 :: rest => some (.clear, rest)
  | 0x48 :: 0x31 :: 0xc0 :: rest => some (.clear, rest)
  | 0x89 :: 0xf8 :: rest => some (.loadCount, rest)
  | 0x48 :: 0x89 :: 0xf8 :: rest => some (.loadCount, rest)
  | 0x01 :: 0xf8 :: rest => some (.addCount, rest)
  | 0x29 :: 0xf8 :: rest => some (.subtractCount, rest)
  | 0x0f :: 0xaf :: 0xc7 :: rest => some (.multiplyCount, rest)
  | 0xf7 :: 0xd8 :: rest => some (.negate, rest)
  | 0xf7 :: 0xd0 :: rest => some (.invert, rest)
  | 0xff :: 0xc0 :: rest => some (.add 1, rest)
  | 0xff :: 0xc8 :: rest => some (.subtract 1, rest)
  | 0x83 :: 0xc0 :: b :: rest => some (.add (widen b), rest)
  | 0x83 :: 0xe8 :: b :: rest => some (.subtract (widen b), rest)
  | 0x05 :: a :: b :: c :: d :: rest => some (.add (word a b c d), rest)
  | 0x2d :: a :: b :: c :: d :: rest => some (.subtract (word a b c d), rest)
  | 0x90 :: rest => some (.skip, rest)
  | 0x48 :: 0x8b :: 0x06 :: rest => some (.loadArgument 0, rest)
  | 0x48 :: 0x8b :: 0x46 :: b :: rest =>
    if b < 0x80 && b % 8 == 0 then some (.loadArgument (b / 8).toNat, rest) else none
  | 0x0f :: 0xb6 :: 0x00 :: rest => some (.loadByte 0, rest)
  | 0x0f :: 0xb6 :: 0x40 :: b :: rest => some (.loadByte (signed b), rest)
  | 0x48 :: 0x83 :: 0x3e :: 0x00 :: rest => some (.testArgument, rest)
  | 0x0f :: 0x94 :: 0xc0 :: rest => some (.setIfZero, rest)
  | 0xc3 :: rest => some (.ret, rest)
  | _ => none

/-! ## Running -/

/-- What the result register holds: a number, or the address of a string. -/
inductive Register where
  /-- A number. -/
  | number (value : UInt32)
  /-- The address of these bytes. -/
  | address (bytes : List UInt8)
  deriving DecidableEq, Repr

/-- The register as a number. An address has no number of its own, and counts as zero. -/
def Register.toNumber : Register → UInt32
  | .number value => value
  | .address _ => 0

/-- The byte at a distance from where the register points. Outside the string there is zero. -/
def Register.byteAt (r : Register) (offset : Int) : UInt8 :=
  match r with
  | .number _ => 0
  | .address bytes => if offset < 0 then 0 else bytes.getD offset.toNat 0

/-- What an instruction reads and writes. -/
structure State where
  /-- The result register. -/
  register : Register
  /-- Whether the last result was zero. -/
  zero : Bool
  deriving DecidableEq, Repr

/-- The state after a computed result, which also sets the zero flag. -/
def State.computed (value : UInt32) : State :=
  ⟨.number value, value == 0⟩

/-- The state after an instruction other than a return. -/
def step (call : Call) (s : State) : Instruction → State
  | .load value => { s with register := .number value }
  | .clear => .computed 0
  | .loadCount => { s with register := .number call.argc.toUInt32 }
  | .addCount => .computed (s.register.toNumber + call.argc.toUInt32)
  | .subtractCount => .computed (s.register.toNumber - call.argc.toUInt32)
  | .multiplyCount => .computed (s.register.toNumber * call.argc.toUInt32)
  | .negate => .computed (0 - s.register.toNumber)
  | .invert => { s with register := .number (s.register.toNumber ^^^ 0xffffffff) }
  | .add value => .computed (s.register.toNumber + value)
  | .subtract value => .computed (s.register.toNumber - value)
  | .skip => s
  | .loadArgument index =>
    match call.argv[index]? with
    | some (some bytes) => { s with register := .address bytes }
    | _ => { s with register := .number 0 }
  | .loadByte offset => { s with register := .number (s.register.byteAt offset).toUInt32 }
  | .testArgument =>
    match call.argv with
    | some _ :: _ => { s with zero := false }
    | _ => { s with zero := true }
  | .setIfZero =>
    let low : UInt32 := if s.zero then 1 else 0
    { s with register := .number (s.register.toNumber / 256 * 256 + low) }
  | .ret => s

/-- Run at most `steps` instructions and give the register at the first return. Code that
cannot be decoded any further ends the run where it stands. -/
def runFrom (call : Call) : Nat → State → List UInt8 → Register
  | 0, s, _ => s.register
  | steps + 1, s, code =>
    match decode? code with
    | none | some (.ret, _) => s.register
    | some (i, rest) => runFrom call steps (step call s i) rest

/-- What a piece of code returns for a call. -/
def run (code : List UInt8) (call : Call) : Int32 :=
  (runFrom call code.length ⟨.number 0, false⟩ code).toNumber.toInt32

/-- The size of the memory in bytes. A mapping has to be smaller. -/
def memorySize : UInt64 :=
  0x800000000

/-- The machine: pages of 4096 bytes, every mapping granted that fits in the memory, and every
mapping made executable on request. -/
def host : Machine where
  architecture := "x86_64"
  pageSize := 4096
  map := fun mapped =>
    if mapped < memorySize then .ok () else .error "Cannot allocate memory (os error 12)"
  protect := fun _ => .ok ()
  run := run

end Confine.Machine.Amd64
