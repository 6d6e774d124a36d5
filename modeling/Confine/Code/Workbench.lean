import Confine.Code.Block

set_option autoImplicit false

/-! # Workbenches

A workbench is where one thread works with code: blocks that it refers to by name, and the
slot with its most recent failure. A `Command` is one piece of work, with the machine that it finds
where it needs one, and an `Answer` is what came of it. A command given to another thread runs on a
workbench of its own, which starts empty and is thrown away. -/

namespace Confine.Code

/-- The blocks and the slot of a thread. -/
structure Workbench where
  /-- The wording of the most recent failure. -/
  slot : Slot := none
  /-- The blocks by their names, the latest first. -/
  blocks : List (String × Block) := []

/-- A piece of work. -/
inductive Command where
  /-- Assemble a listing and keep the block under a name. -/
  | assemble (host : Machine) (name architecture backend listing : String)
  /-- Look at a block. -/
  | inspect (name : String)
  /-- Write a block's code as a listing. -/
  | dump (name : String)
  /-- Call a block. -/
  | execute (host : Machine) (name : String) (args : Option (List String))
  /-- Free a block. -/
  | free (name : String)
  /-- Decode a listing. -/
  | decode (listing : String)
  /-- Assemble a text of instructions. -/
  | assembleStream (architecture text backend : String)
  /-- Map a region, write bytes into it, and seal it. -/
  | seal (host : Machine) (size : UInt64) (bytes : List UInt8)
  /-- Map a region and write bytes into it. -/
  | map (host : Machine) (size : UInt64) (bytes : List UInt8)
  /-- Empty the slot. -/
  | clear
  /-- Let another thread work. -/
  | thread (commands : List Command)
  deriving Inhabited

/-- What came of a piece of work. -/
inductive Answer where
  /-- Nothing to tell. -/
  | done
  /-- A block, after it was assembled or for a look at it. -/
  | block (block : Block)
  /-- A text. -/
  | text (text : String)
  /-- A number that code returned. -/
  | value (value : Int32)
  /-- Bytes. -/
  | bytes (bytes : List UInt8)
  /-- A region before and after it was sealed. -/
  | sealed (writable : WritableRegion) (executable : ExecutableRegion)
  /-- A region that was not sealed. -/
  | mapped (writable : WritableRegion)
  /-- A failure. -/
  | failed (cause : Error)
  /-- There is no block with the name. -/
  | noSuchBlock
  /-- What another thread answered, with its slot after each answer. -/
  | thread (answers : List (Answer × Slot))

namespace Workbench

variable {α : Type}

/-- The block with a name. -/
def find? (w : Workbench) (name : String) : Option Block :=
  w.blocks.lookup name

/-- The workbench with a block under a name. -/
def store (w : Workbench) (name : String) (block : Block) : Workbench :=
  { w with blocks := (name, block) :: w.blocks }

/-- The workbench after events. -/
def note (w : Workbench) (events : List Event) : Workbench :=
  { w with slot := w.slot.noteAll events }

/-- Answer with the result of an attempt. -/
def attempt (w : Workbench) (a : Attempt α) (answer : α → Answer) : Answer × Workbench :=
  match a.result with
  | .error cause => (.failed cause, w.note a.events)
  | .ok value => (answer value, w.note a.events)

/-- Work on the block with a name. -/
def withBlock (w : Workbench) (name : String) (work : Block → Answer × Workbench) :
    Answer × Workbench :=
  match w.find? name with
  | none => (.noSuchBlock, w)
  | some block => work block

mutual

/-- Carry out a command. -/
def perform (w : Workbench) : Command → Answer × Workbench
  | .assemble host name architecture backend listing =>
    let a := Block.assemble host architecture backend listing
    match a.result with
    | .error cause => (.failed cause, w.note a.events)
    | .ok block => (.block block, (w.note a.events).store name block)
  | .inspect name => w.withBlock name fun block => (.block block, w)
  | .dump name => w.withBlock name fun block => w.attempt block.dump .text
  | .execute host name args =>
    w.withBlock name fun block => w.attempt (block.execute host args) .value
  | .free name =>
    w.withBlock name fun block => (.done, (w.note block.freeEvents).store name block.free)
  | .decode listing => w.attempt (Code.decode listing) .bytes
  | .assembleStream architecture text backend =>
    w.attempt (Block.assembleStream (Stream.parse architecture text) backend) .block
  | .seal host size bytes =>
    let work : Attempt (WritableRegion × ExecutableRegion) := do
      let fresh ← WritableRegion.allocate host size
      let region := fresh.write bytes
      pure (region, ← region.makeExecutable host)
    w.attempt work fun regions => .sealed regions.1 regions.2
  | .map host size bytes =>
    let work : Attempt WritableRegion := do
      pure ((← WritableRegion.allocate host size).write bytes)
    w.attempt work .mapped
  | .clear => (.done, { w with slot := none })
  | .thread commands => (.thread (performAll {} commands), w)

/-- Carry out commands one after another, and give the slot after each. -/
def performAll (w : Workbench) : List Command → List (Answer × Slot)
  | [] => []
  | command :: rest =>
    let (answer, after) := perform w command
    (answer, after.slot) :: performAll after rest

end

end Workbench

end Confine.Code
