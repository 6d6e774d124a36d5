import Confine.Code.Region

set_option autoImplicit false

/-! # Blocks of code

A `Block` is loaded code together with the architecture and the backend that it was assembled
for. It is made from a hexadecimal listing, called with arguments, written out again, and
freed; a freed block keeps its two names and nothing else. -/

namespace Confine.Code

/-- Load bytes: map pages, write the bytes, and seal the pages. Bytes whose number needs more
than 64 bits are too many for any mapping. -/
def load (m : Machine) (bytes : List UInt8) : Attempt ExecutableRegion := do
  if bytes.isEmpty then .fail (.emptyInput .code)
  else if UInt64.size ≤ bytes.length then .fail (.alloc .tooLarge)
  else
    let region ← WritableRegion.allocate m (UInt64.ofNat bytes.length)
    (region.write bytes).makeExecutable m

/-- Whether an argument holds the character that ends strings. -/
def holdsTerminator (argument : String) : Bool :=
  argument.toList.any (· == '\x00')

/-- Call a region with arguments. An argument that holds the terminator could not arrive whole,
so the first such argument is refused and the code is not called. -/
def invoke (m : Machine) (region : ExecutableRegion) (args : List String) : Attempt Int32 :=
  match args.find? holdsTerminator with
  | some argument => .fail (.invalidArgument argument)
  | none => do
    let call := Machine.Call.ofArguments args
    .note (.executing region.len call)
    pure (m.run region.bytes call)

/-- Loaded code and what it was assembled for. -/
structure Block where
  /-- The architecture. -/
  architecture : String
  /-- The backend. -/
  backend : String
  /-- The code; `none` once the block is freed. -/
  region : Option ExecutableRegion
  deriving DecidableEq, Repr

namespace Block

/-- The block of the code that a listing names. -/
def assemble (m : Machine) (architecture backend listing : String) : Attempt Block := do
  let bytes ← decode listing
  let region ← load m bytes
  .note (.loaded region.len architecture backend)
  pure ⟨architecture, backend, some region⟩

/-- Instructions are not turned into code: a stream is refused, and one without instructions
for that reason first. -/
def assembleStream (s : Stream) (backend : String) : Attempt Block := do
  if s.instructions.isEmpty then .fail (.emptyInput .instructions)
  else
    .note (.refusing s.instructions.length s.architecture backend)
    .fail .notImplemented

/-- The number of bytes of code, zero once the block is freed. -/
def size (b : Block) : UInt64 :=
  b.region.elim 0 ExecutableRegion.len

/-- Whether the block holds code. -/
def isExecutable (b : Block) : Bool :=
  b.region.isSome

/-- The code. -/
def code? (b : Block) : Option (List UInt8) :=
  b.region.map ExecutableRegion.bytes

/-- Call the block. No context is the same as no arguments. -/
def execute (m : Machine) (b : Block) (args : Option (List String)) : Attempt Int32 :=
  match b.region with
  | none => .fail (.invalidBlock .notExecutable)
  | some region =>
    if region.len = 0 then .fail (.invalidBlock .empty)
    else invoke m region (args.getD [])

/-- Write the code as a listing. -/
def dump (b : Block) : Attempt String :=
  match b.code? with
  | none | some [] => .fail (.invalidBlock .nothingToDump)
  | some bytes => pure (Hex.encode bytes)

/-- The block without its code. -/
def free (b : Block) : Block :=
  { b with region := none }

/-- What freeing a block tells; freeing it again tells nothing. -/
def freeEvents (b : Block) : List Event :=
  match b.region with
  | none => []
  | some region => [.freeing region.len b.architecture]

/-- The block as a record. -/
def render (b : Block) : String :=
  let region := b.region.elim "None" fun r => "Some(" ++ r.render ++ ")"
  s!"ExecutableBlock \x7b architecture: {Text.quoted b.architecture}, " ++
    s!"backend: {Text.quoted b.backend}, region: {region} \x7d"

end Block

end Confine.Code
