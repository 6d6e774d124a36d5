import Confine.System.Call

set_option autoImplicit false

/-! # Streams of bytes

Reading to the end and writing everything, which may take several requests each. -/

namespace Confine.System.Work

/-- Write bytes through a descriptor, as many requests as it takes. The number bounds these. -/
def writeBytes (descriptor : Nat) : Nat → List UInt8 → Work (Except Fault Unit)
  | _, [] => pure (.ok ())
  | 0, _ => pure (.ok ())
  | steps + 1, bytes => do
    match ← call (.write descriptor bytes) with
    | .ok n => writeBytes descriptor steps (bytes.drop n)
    | .error fault => pure (.error fault)

/-- Write bytes through a descriptor. -/
def write (descriptor : Nat) (bytes : List UInt8) : Work (Except Fault Unit) :=
  writeBytes descriptor bytes.length bytes

/-- How many times something is read before it is taken to have no end. -/
def mostReads : Nat := 1000000000

/-- How many bytes are read at once. -/
def readSize : Nat := 8192

/-- Read through a descriptor to the end: the pieces, the latest first, and the fault that has kept
it from reading on. The number bounds how often it is read. -/
def readPieces (descriptor : Nat) :
    Nat → List (List UInt8) → Work (List (List UInt8) × Option Fault)
  | 0, pieces => pure (pieces, none)
  | steps + 1, pieces => do
    match ← call (.read descriptor readSize) with
    | .ok [] => pure (pieces, none)
    | .error fault => pure (pieces, some fault)
    | .ok bytes => readPieces descriptor steps (bytes :: pieces)

/-- Read bytes through a descriptor to the end, or up to a fault. -/
def readAll (descriptor : Nat) : Work (List UInt8 × Option Fault) := do
  let (pieces, fault) ← readPieces descriptor mostReads []
  return (pieces.reverse.flatten, fault)

/-- Work on for ever. -/
def spin {α : Type} : Work α :=
  fun _ => .call .spin fun _ => .exit 0

end Confine.System.Work
