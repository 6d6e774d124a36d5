import Confine.Code.Attempt

set_option autoImplicit false

/-! # Regions of memory for code

A region starts out writable and becomes executable, and never is both: the two states are two
types, and the only step from one to the other is `WritableRegion.makeExecutable`. The step
consumes the writable region: where the host refuses it, the pages are released and there is no
region any more. Fresh pages are zero, so a region holds the bytes that were written to it followed
by zeros, and only the written bytes are kept. -/

namespace Confine.Code

/-- Bytes in memory: what was written at the start, and zeros up to the length. -/
structure Extent where
  /-- The number of bytes that were asked for. -/
  len : UInt64
  /-- The number of bytes that were mapped. -/
  mapped : UInt64
  /-- The bytes written at the start. -/
  written : List UInt8
  deriving DecidableEq, Repr

namespace Extent

/-- The byte at a position. -/
def byteAt (e : Extent) (i : Nat) : UInt8 :=
  e.written.getD i 0

/-- The first bytes, at most `n` of them. -/
def head (e : Extent) (n : Nat) : List UInt8 :=
  (List.range (min n e.len.toNat)).map e.byteAt

/-- The last bytes, at most `n` of them, the last one first. -/
def tailReversed (e : Extent) (n : Nat) : List UInt8 :=
  (List.range (min n e.len.toNat)).map fun i => e.byteAt (e.len.toNat - 1 - i)

/-- All the bytes. -/
def bytes (e : Extent) : List UInt8 :=
  e.head e.len.toNat

end Extent

/-- Pages that can be written and not executed. -/
structure WritableRegion where
  /-- What they hold. -/
  extent : Extent
  deriving DecidableEq, Repr

/-- Pages that can be executed and not written. -/
structure ExecutableRegion where
  /-- What they hold. -/
  extent : Extent
  deriving DecidableEq, Repr

namespace WritableRegion

/-- Map whole pages for at least `size` bytes. -/
def allocate (m : Machine) (size : UInt64) : Attempt WritableRegion :=
  if size = 0 then .fail (.emptyInput .size)
  else
    match m.roundUp size with
    | none => .fail (.alloc .tooLarge)
    | some pages =>
      match m.map pages with
      | .error reason => .fail (.alloc (.refused reason))
      | .ok () => do
        .note (.mapped pages size)
        pure ⟨⟨size, pages, []⟩⟩

/-- Write bytes at the start. What does not fit is left out. -/
def write (r : WritableRegion) (bytes : List UInt8) : WritableRegion :=
  ⟨{ r.extent with written := bytes.take r.extent.len.toNat }⟩

/-- Give up writing and permit execution, or release the pages if the host refuses. -/
def makeExecutable (m : Machine) (r : WritableRegion) : Attempt ExecutableRegion :=
  match m.protect r.extent.mapped with
  | .error reason => .fail (.protect reason)
  | .ok () => do
    .note (.sealed r.extent.mapped)
    pure ⟨r.extent⟩

/-- The region as a record. -/
def render (r : WritableRegion) : String :=
  s!"WritableRegion \x7b ptr: 0xPTR, len: {r.extent.len} \x7d"

end WritableRegion

namespace ExecutableRegion

/-- The number of bytes. -/
def len (r : ExecutableRegion) : UInt64 :=
  r.extent.len

/-- The code. -/
def bytes (r : ExecutableRegion) : List UInt8 :=
  r.extent.bytes

/-- The region as a record. -/
def render (r : ExecutableRegion) : String :=
  s!"ExecutableRegion \x7b ptr: 0xPTR, len: {r.len} \x7d"

end ExecutableRegion

end Confine.Code
