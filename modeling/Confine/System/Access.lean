import Confine.System.Signal

set_option autoImplicit false

/-! # Access to what is open

Reading and writing through descriptors. A process that reads from a pipe waits for bytes as long
as anybody might still write some; one that writes to a full pipe waits for room as long as anybody
might still read, and is told by a signal when nobody will. -/

namespace Confine.System

/-- What comes of a request: an answer, or that the process has to wait. -/
inductive Outcome (α : Type) where
  /-- There is an answer. -/
  | answered (answer : α) (after : System)
  /-- There is none yet. -/
  | blocked (after : System)

/-- How many bytes a pipe holds. -/
def pipeRoom : Nat := 65536

/-- The files as a process sees them. -/
def view (s : System) (p : Process) : FileTree :=
  { s.files with current := p.directory }

/-! ## Times -/

/-- When something was changed that was never changed since the start. -/
def earlier : Int := -1000

/-- When what is at a place was changed. -/
def timeAt (s : System) (place : List String) : Int :=
  (s.times.lookup place).getD earlier

/-- The system after what is at a place was changed at some time. -/
def changedAt (s : System) (place : List String) (time : Int) : System :=
  { s with times := (place, time) :: s.times.filter fun t => t.1 ≠ place }

/-- The system after what is at a place was changed now. -/
def changedNow (s : System) (place : List String) : System :=
  s.changedAt place s.now

/-- The system after a name was added to a directory, or taken away from it. -/
def renamedIn (s : System) (place : List String) : System :=
  s.changedNow place.dropLast

/-! ## Opening -/

/-- Open for a process what a descriptor of it leads to. -/
def reopen (s : System) (p : Process) (descriptor : Nat) (how : Opening) :
    Except Fault Nat × System :=
  match s.description? p descriptor with
  | none => (.error .notFound, s)
  | some d =>
    s.openFor p { d with reads := how.reads, writes := how.writes, appends := how.appends }

/-- Open the file at a path. -/
def openAt (s : System) (p : Process) (path : String) (how : Opening) (permissions : Nat) :
    Except Fault Nat × System :=
  let about (channel : Channel) : Description :=
    { number := 0, channel, reads := how.reads, writes := how.writes, appends := how.appends }
  let inPlace (place : List String) (node : FileTree.Node) (isNew : Bool) :
      Except Fault Nat × System :=
    match s.openFor p (about (.file place)) with
    | (.ok n, after) =>
      let after := { after with files := after.files.put place node }
      let after := if isNew then (after.renamedIn place).changedNow place
        else if how.truncates then after.changedNow place else after
      (.ok n, after)
    | refused => refused
  match (s.view p).locate path with
  | .error fault => (.error fault, s)
  | .ok (place, some (.directory _ _)) =>
    if how.writes ∨ how.creates then (.error .isDirectory, s)
    else s.openFor p (about (.directory place))
  | .ok (place, some (.file permissions bytes)) =>
    if how.isNew then (.error .exists, s)
    else inPlace place (.file permissions (if how.truncates then [] else bytes)) false
  | .ok (_, some (.device .terminal)) => (.error .noDevice, s)
  | .ok (_, some (.device (.descriptor n))) => s.reopen p n how
  | .ok (_, some (.device d)) => s.openFor p (about (.device d))
  | .ok (_, some (.link _)) => (.error .notFound, s)
  | .ok (place, none) =>
    if !how.creates ∨ FileTree.isSealed place then (.error .notFound, s)
    else if Path.endsWithSlash path then (.error .isDirectory, s)
    else inPlace place (.file (permissions &&& (0o777 ^^^ p.mask)) []) true

/-- Make a pipe. -/
def openPipe (s : System) (p : Process) : Except Fault (Nat × Nat) × System :=
  let about (reads : Bool) : Description :=
    { number := 0, channel := .pipe s.fresh, reads, writes := !reads }
  let piped := { s with fresh := s.fresh + 1, pipes := (s.fresh, []) :: s.pipes }
  match piped.openFor p (about true) with
  | (.error fault, _) => (.error fault, s)
  | (.ok source, after) =>
    match after.process? p.pid with
    | none => (.error .badDescriptor, s)
    | some p =>
      match after.openFor p (about false) with
      | (.error fault, _) => (.error fault, s)
      | (.ok sink, after) => (.ok (source, sink), after)

/-! ## Reading and writing -/

/-- The bytes of the file at a place. -/
def bytesAt (s : System) (place : List String) : List UInt8 :=
  match s.files.at? place with
  | some (.file _ bytes) => bytes
  | _ => []

/-- Read through a descriptor. -/
def readFor (s : System) (p : Process) (descriptor count : Nat) :
    Outcome (Except Fault (List UInt8)) :=
  let ofFile (d : Description) (all : List UInt8) : Outcome (Except Fault (List UInt8)) :=
    let bytes := (all.drop d.offset).take count
    .answered (.ok bytes) (s.redescribe { d with offset := d.offset + bytes.length })
  match s.description? p descriptor with
  | none => .answered (.error .badDescriptor) s
  | some d =>
    if !d.reads then .answered (.error .badDescriptor) s
    else
      match d.channel with
      | .file place => ofFile d (s.bytesAt place)
      | .orphan bytes => ofFile d bytes
      | .directory _ => .answered (.error .isDirectory) s
      | .device .zero | .device .full => .answered (.ok (List.replicate count 0)) s
      | .device _ | .output _ => .answered (.ok []) s
      | .pipe n =>
        match s.pipes.lookup n with
        | none => .answered (.ok []) s
        | some [] => if s.isHeld n false then .blocked s else .answered (.ok []) s
        | some bytes =>
          let pipes := s.pipes.map fun pipe =>
            if pipe.1 = n then (n, bytes.drop count) else pipe
          .answered (.ok (bytes.take count)) { s with pipes }

/-- Bytes with others written over them from a position on. What lies between is zero. -/
def overwrite (before : List UInt8) (position : Nat) (bytes : List UInt8) : List UInt8 :=
  before.take position ++ List.replicate (position - before.length) 0 ++ bytes ++
    before.drop (position + bytes.length)

/-- Write through a descriptor. -/
def writeFor (s : System) (p : Process) (descriptor : Nat) (bytes : List UInt8) :
    Outcome (Except Fault Nat) :=
  match s.description? p descriptor with
  | none => .answered (.error .badDescriptor) s
  | some d =>
    if !d.writes then .answered (.error .badDescriptor) s
    else
      match d.channel with
      | .file place =>
        match s.files.at? place with
        | some (.file permissions before) =>
          let position := if d.appends then before.length else d.offset
          let part := (p.cap .fileSize).soft.elim bytes fun most => bytes.take (most - position)
          if part.isEmpty ∧ !bytes.isEmpty then
            .answered (.error .tooLarge) (s.deliver p.pid sizeSignal)
          else
            let after := s.redescribe { d with offset := position + part.length }
            let file := FileTree.Node.file permissions (overwrite before position part)
            let after := { after with files := s.files.put place file }
            .answered (.ok part.length) (if bytes.isEmpty then after else after.changedNow place)
        | _ => .answered (.ok bytes.length) s
      | .orphan before =>
        let position := if d.appends then before.length else d.offset
        .answered (.ok bytes.length) (s.redescribe { d with
          channel := .orphan (overwrite before position bytes), offset := position + bytes.length })
      | .directory _ => .answered (.error .badDescriptor) s
      | .device .full =>
        .answered (if bytes.isEmpty then .ok 0 else .error .noSpace) s
      | .device _ => .answered (.ok bytes.length) s
      | .output toError =>
        .answered (.ok bytes.length) { s with written := (toError, bytes) :: s.written }
      | .pipe n =>
        if !s.isHeld n true then
          .answered (.error .brokenPipe) (s.deliver p.pid pipeSignal)
        else
          match s.pipes.lookup n with
          | none => .answered (.error .brokenPipe) s
          | some held =>
            let room := pipeRoom - held.length
            if room = 0 then .blocked s
            else
              let part := bytes.take room
              let pipes := s.pipes.map fun pipe => if pipe.1 = n then (n, held ++ part) else pipe
              .answered (.ok part.length) { s with pipes }

/-- Go back by some bytes in what a descriptor leads to. What has no positions stays as it is. -/
def goBackFor (s : System) (p : Process) (descriptor count : Nat) : System :=
  match s.description? p descriptor with
  | none => s
  | some d => s.redescribe { d with offset := d.offset - count }

/-! ## Descriptors -/

/-- Have a second descriptor for the same. -/
def duplicateFor (s : System) (p : Process) (descriptor least : Nat) (closes : Bool) :
    Except Fault Nat × System :=
  match p.slots.find? fun slot => slot.descriptor == descriptor with
  | none => (.error .badDescriptor, s)
  | some slot =>
    let free := freeFrom p least
    if !fits p least then (.error .invalid, s)
    else if !fits p free then (.error .tooManyFiles, s)
    else
      let added (p : Process) : Process :=
        { p with slots := ⟨free, slot.description, closes⟩ :: p.slots }
      (.ok free, s.update p.pid added)

/-- Have a second descriptor with a given number for the same. -/
def replaceFor (s : System) (p : Process) (descriptor target : Nat) : Except Fault Unit × System :=
  match p.slots.find? fun slot => slot.descriptor == descriptor with
  | none => (.error .badDescriptor, s)
  | some slot =>
    if !fits p target then (.error .badDescriptor, s)
    else if descriptor = target then (.ok (), s)
    else
      let changed (p : Process) : Process :=
        { p with slots := ⟨target, slot.description, false⟩ ::
          p.slots.filter fun slot => slot.descriptor ≠ target }
      (.ok (), (s.update p.pid changed).collect)

end Confine.System
